import OntoTypes.Attempt
import OntoTypes.Markup.Basic

/-!
# Messages on the console

What a console shows of diagnostics. Advice and warnings are escaped and set in a style of their
own, so they show as they are, up to what the console never shows. Progress is printed as it is
written, tags and all, and a tag that closes nothing is then an error.

Main definitions: `Diagnostic.shown`, `Attempt.print`.
-/

namespace OntoTypes

/-- A text that is to show as it is, in a style. -/
def Markup.styled (style text : String) : String :=
  "[" ++ style ++ "]" ++ escape text ++ "[/" ++ style ++ "]"

/-- What a console shows of a diagnostic. -/
def Diagnostic.shown (diagnostic : Diagnostic) : String :=
  let show? (markup : String) : String := (Markup.render markup).toOption.getD diagnostic.text
  match diagnostic.level with
  | .log => show? (Markup.styled "dim" diagnostic.text)
  | .warn => show? (Markup.styled "yellow" diagnostic.text)
  | .print => diagnostic.text

namespace Attempt

/-- Prints progress. -/
def print (markup : String) : Attempt Unit :=
  match Markup.render markup with
  | .ok text => note .print text
  | .error tag => throw (.unmatchedTag tag)

end Attempt

end OntoTypes
