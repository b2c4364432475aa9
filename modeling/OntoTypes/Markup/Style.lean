import OntoTypes.Number.Written
import OntoTypes.Text.Octets

/-!
# Styles

How the style of a message may be called: by attributes, by colours and by a link, in any order and
with short names for the attributes. Two calls for the same style have the same standard form; what
is no call for a style is compared in lowercase.

Main definition: `styleForm`.
-/

namespace OntoTypes.Markup

/-- The attributes of a style, in the order in which they are listed. -/
def attributes : List String :=
  ["bold", "dim", "italic", "underline", "blink", "blink2", "reverse", "conceal", "strike",
    "underline2", "frame", "encircle", "overline"]

/-- The short names of attributes. -/
def shortAttributes : List (String × String) :=
  [("d", "dim"), ("b", "bold"), ("i", "italic"), ("u", "underline"), ("r", "reverse"),
    ("c", "conceal"), ("s", "strike"), ("uu", "underline2"), ("o", "overline")]

/-- The attribute that a word names. -/
def attribute? (word : String) : Option String :=
  if attributes.contains word then some word else shortAttributes.lookup word

/-- The names of colours. -/
def colourWords : String := "
  black red green yellow blue magenta cyan white bright_black bright_red bright_green
  bright_yellow bright_blue bright_magenta bright_cyan bright_white grey0 gray0 navy_blue
  dark_blue blue3 blue1 dark_green deep_sky_blue4 dodger_blue3 dodger_blue2 green4 spring_green4
  turquoise4 deep_sky_blue3 dodger_blue1 green3 spring_green3 dark_cyan light_sea_green
  deep_sky_blue2 deep_sky_blue1 spring_green2 cyan3 dark_turquoise turquoise2 green1 spring_green1
  medium_spring_green cyan2 cyan1 dark_red deep_pink4 purple4 purple3 blue_violet orange4 grey37
  gray37 medium_purple4 slate_blue3 royal_blue1 chartreuse4 dark_sea_green4 pale_turquoise4
  steel_blue steel_blue3 cornflower_blue chartreuse3 cadet_blue sky_blue3 steel_blue1 pale_green3
  sea_green3 aquamarine3 medium_turquoise chartreuse2 sea_green2 sea_green1 aquamarine1
  dark_slate_gray2 dark_magenta dark_violet purple light_pink4 plum4 medium_purple3 slate_blue1
  yellow4 wheat4 grey53 gray53 light_slate_grey light_slate_gray medium_purple light_slate_blue
  dark_olive_green3 dark_sea_green light_sky_blue3 sky_blue2 dark_sea_green3 dark_slate_gray3
  sky_blue1 chartreuse1 light_green pale_green1 dark_slate_gray1 red3 medium_violet_red magenta3
  dark_orange3 indian_red hot_pink3 medium_orchid3 medium_orchid medium_purple2 dark_goldenrod
  light_salmon3 rosy_brown grey63 gray63 medium_purple1 gold3 dark_khaki navajo_white3 grey69
  gray69 light_steel_blue3 light_steel_blue yellow3 dark_sea_green2 light_cyan3 light_sky_blue1
  green_yellow dark_olive_green2 dark_sea_green1 pale_turquoise1 deep_pink3 magenta2 hot_pink2
  orchid medium_orchid1 orange3 light_pink3 pink3 plum3 violet light_goldenrod3 tan misty_rose3
  thistle3 plum2 khaki3 light_goldenrod2 light_yellow3 grey84 gray84 light_steel_blue1 yellow2
  dark_olive_green1 honeydew2 light_cyan1 red1 deep_pink2 deep_pink1 magenta1 orange_red1
  indian_red1 hot_pink dark_orange salmon1 light_coral pale_violet_red1 orchid2 orchid1 orange1
  sandy_brown light_salmon1 light_pink1 pink1 plum1 gold1 navajo_white1 misty_rose1 thistle1
  yellow1 light_goldenrod1 khaki1 wheat1 cornsilk1 grey100 gray100 grey3 gray3 grey7 gray7 grey11
  gray11 grey15 gray15 grey19 gray19 grey23 gray23 grey27 gray27 grey30 gray30 grey35 gray35
  grey39 gray39 grey42 gray42 grey46 gray46 grey50 gray50 grey54 gray54 grey58 gray58 grey62
  gray62 grey66 gray66 grey70 gray70 grey74 gray74 grey78 gray78 grey82 gray82 grey85 gray85
  grey89 gray89 grey93 gray93
"

/-- The words of a text, between blanks. -/
def wordsOf (cs : List Char) : List String :=
  let blank (c : Char) : Char := if Text.blanks.contains c.toNat then ' ' else c
  ((Text.splitOn ' ' (cs.map blank)).filter (!·.isEmpty)).map String.ofList

/-- Whether a text is a number of at most three digits that fits into a byte. -/
def isByte (cs : List Char) : Bool :=
  match Number.natural? cs with
  | some n => n < 256 && cs.length ≤ 3
  | none => false

/-- What stands in brackets behind a word. -/
def bracketed? (word : String) (cs : List Char) : Option (List Char) :=
  if (word.toList ++ ['(']).isPrefixOf cs && cs.getLast? = some ')' then
    some ((cs.drop (word.length + 1)).dropLast)
  else none

/-- Whether a word in lowercase names a colour: by name, by number, or by its three parts. -/
def isColour (word : String) : Bool :=
  let cs := word.toList
  word = "default" || (wordsOf colourWords.toList).contains word ||
    (cs.head? = some '#' && cs.length = 7 && (cs.drop 1).all fun c => (Text.hexValue? c).isSome) ||
    ((bracketed? "color" cs).map isByte).getD false ||
    ((bracketed? "rgb" cs).map fun inner =>
      let parts := Text.splitOn ',' inner
      parts.length = 3 && parts.all isByte).getD false

/-- A style as far as it has been read. -/
structure Style where
  attributes : List (String × Bool) := []
  colour     : Option String := none
  background : Option String := none
  link       : Option String := none

/-- The style that words call for, on top of what has been read. -/
def Style.read? (style : Style) : List String → Option Style
  | [] => some style
  | word :: rest =>
    match Text.lowercase word, rest with
    | "on", colour :: rest =>
      if isColour (Text.lowercase colour) then
        { style with background := some (Text.lowercase colour) }.read? rest
      else none
    | "not", word :: rest =>
      (attribute? word).bind fun name =>
        { style with attributes := (name, false) :: style.attributes }.read? rest
    | "link", target :: rest => { style with link := some target }.read? rest
    | "on", [] | "not", [] | "link", [] => none
    | word, rest =>
      match attribute? word with
      | some name => { style with attributes := (name, true) :: style.attributes }.read? rest
      | none => if isColour word then { style with colour := some word }.read? rest else none

/-- The words of a style in standard order. -/
def Style.words (style : Style) : List String :=
  (Markup.attributes.filterMap fun name =>
    (style.attributes.lookup name).map fun isOn => if isOn then name else "not " ++ name) ++
  style.colour.toList ++ (style.background.map ("on " ++ ·)).toList ++
  (style.link.map ("link " ++ ·)).toList

/-- The standard form of a call for a style. -/
def styleForm (cs : List Char) : String :=
  let trimmed := String.ofList (Text.trim (fun c => Text.blanks.contains c.toNat) cs)
  if trimmed = "none" then "none"
  else
    match ({} : Style).read? (wordsOf cs) with
    | some style => if style.words.isEmpty then "none" else " ".intercalate style.words
    | none => Text.lowercase trimmed

end OntoTypes.Markup
