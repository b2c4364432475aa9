import OntoTypes.Text.Split

/-!
# Paths

Paths with slashes between their segments, in which a segment `.` says nothing and a segment `..`
takes back the one before it.

Main definitions:

* `segments` — the segments of a path;
* `applyDots` — segments with `.` and `..` carried out, as far as there is something to take back;
* `shortenPath` — a path without empty segments, `.` and `..`.
-/

namespace OntoTypes.Text

/-- The segments of a path, between slashes. -/
def segments (path : List Char) : List (List Char) := splitOn '/' path

/-- Segments with `..` taking back the one before it, as far as there is one, and `.` left out. -/
def applyDots (parts : List (List Char)) : List (List Char) :=
  (parts.foldl (fun kept segment =>
    if segment = ['.', '.'] then kept.tail
    else if segment = ['.'] then kept
    else segment :: kept) []).reverse

/-- The slashes that a path keeps at its start: one, or exactly two. -/
def leadingSlashes (path : List Char) : List Char :=
  match path with
  | '/' :: '/' :: '/' :: _ => ['/']
  | '/' :: '/' :: _ => ['/', '/']
  | '/' :: _ => ['/']
  | _ => []

/-- One more segment of a path that is read from its start, the last segment kept coming first. At
the root there is nothing to take back; elsewhere what cannot be taken back stays. -/
def pushSegment (isRooted : Bool) (kept : List (List Char)) (segment : List Char) :
    List (List Char) :=
  if segment = [] || segment = ['.'] then kept
  else if segment = ['.', '.'] then
    match kept with
    | [] => if isRooted then [] else [segment]
    | last :: before => if last = ['.', '.'] then segment :: kept else before
  else segment :: kept

/-- A path without empty and `.` segments, `..` taking back the segment before it. A path that is
left empty is written `.`. -/
def shortenPath (path : List Char) : List Char :=
  let slashes := leadingSlashes path
  let kept := (segments path).foldl (pushSegment !slashes.isEmpty) []
  match slashes ++ joinWith '/' kept.reverse with
  | [] => ['.']
  | short => short

end OntoTypes.Text
