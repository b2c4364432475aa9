import OntoTypes.Markup.Shortcode
import OntoTypes.Markup.Style

/-!
# Markup in messages

Messages are written in a notation in which tags between square brackets change the style of the
text up to a closing tag. A backslash in front of a tag makes it plain text; two backslashes there
stand for one. On a console without styles only the text shows. A text can be escaped so that it
shows as it is.

Main definitions:

* `segments` — a text taken apart at its tags;
* `escape` — the notation for a text that is to show as it is;
* `render` — what shows of a message; a closing tag that closes nothing is an error.
-/

namespace OntoTypes.Markup

/-- A part of a message: a text without tags, or a tag with the number of backslashes before it. -/
inductive Segment where
  | text (cs : List Char)
  | tag (backslashes : Nat) (name : List Char)
deriving DecidableEq

/-- What a tag is called, given the text behind its opening bracket. -/
def tagName? (cs : List Char) : Option (List Char) :=
  match cs with
  | c :: rest =>
    let isInner (c : Char) : Bool := c ≠ '[' && c ≠ ']'
    if (c.isLower || c = '#' || c = '/' || c = '@') &&
        (rest.dropWhile isInner).head? = some ']' then
      some (c :: rest.takeWhile isInner)
    else none
  | [] => none

/-- A text as a segment, if it is not empty. -/
def textSegment (cs : List Char) : List Segment := if cs.isEmpty then [] else [.text cs]

/-- The segments of a message. `read` is the text before, last character first, `backslashes`
counts the backslashes behind it, and the next `done` characters have been dealt with. -/
def segmentsFrom (read : List Char) (backslashes done : Nat) : List Char → List Segment
  | [] => textSegment (List.replicate backslashes '\\' ++ read).reverse
  | c :: rest =>
    if 0 < done then segmentsFrom read backslashes (done - 1) rest
    else if c = '\\' then segmentsFrom read (backslashes + 1) 0 rest
    else
      match if c = '[' then tagName? rest else none with
      | some name =>
        textSegment read.reverse ++
          .tag backslashes name :: segmentsFrom [] 0 (name.length + 1) rest
      | none => segmentsFrom (c :: (List.replicate backslashes '\\' ++ read)) 0 0 rest

/-- The segments of a message. -/
def segments (cs : List Char) : List Segment := segmentsFrom [] 0 0 cs

/-! ## Escaping -/

/-- The notation for a segment that is to show as it is. -/
def Segment.escaped : Segment → List Char
  | text cs => cs
  | tag backslashes name => List.replicate (2 * backslashes + 1) '\\' ++ '[' :: (name ++ [']'])

/-- The notation for a text that is to show as it is. A single backslash at its end is doubled, in
case a tag follows. -/
def escape (s : String) : String :=
  let cs := (segments s.toList).flatMap Segment.escaped
  let isOpenEnded := cs.getLast? = some '\\' && cs.dropLast.getLast? ≠ some '\\'
  String.ofList (if isOpenEnded then cs ++ ['\\'] else cs)

/-! ## Showing -/

/-- A text without the backslashes before its opening brackets. -/
def withoutBracketEscapes : List Char → List Char
  | '\\' :: '[' :: rest => '[' :: withoutBracketEscapes rest
  | c :: rest => c :: withoutBracketEscapes rest
  | [] => []

/-- Control characters that a console does not show: bell, backspace, vertical tab, form feed and
carriage return. -/
def isUnshown (c : Char) : Bool := [7, 8, 11, 12, 13].contains c.toNat

/-- What shows of a text without tags. -/
def shownText (cs : List Char) : List Char :=
  (withPictographs (withoutBracketEscapes cs)).filter (!isUnshown ·)

/-- The styles that are open after a tag; the innermost one comes first. A closing tag closes the
innermost style it names, or the innermost one of all if it names none. -/
def afterTag? (styles : List String) (name : List Char) : Option (List String) :=
  match (Text.cutAt '=' name).1 with
  | '/' :: closed =>
    if closed.all fun c => Text.blanks.contains c.toNat then
      match styles with
      | _ :: others => some others
      | [] => none
    else
      let form := styleForm closed
      if styles.contains form then some (styles.erase form) else none
  | opened => some (styleForm opened :: styles)

/-- What shows of some segments inside of open styles. A closing tag that closes nothing is an
error. -/
def shown (styles : List String) : List Segment → Except (List Char) (List Char)
  | [] => .ok []
  | .text cs :: rest => return shownText cs ++ (← shown styles rest)
  | .tag backslashes name :: rest => do
    let before := List.replicate (backslashes / 2) '\\'
    if backslashes % 2 = 1 then
      return before ++ shownText ('[' :: (name ++ [']'])) ++ (← shown styles rest)
    else
      match afterTag? styles name with
      | some styles => return before ++ (← shown styles rest)
      | none => throw name

/-- What shows of a message; the name of the closing tag that closes nothing, if there is one. -/
def render (s : String) : Except String String :=
  match shown [] (segments s.toList) with
  | .ok cs => .ok (String.ofList cs)
  | .error name => .error (String.ofList name)

end OntoTypes.Markup
