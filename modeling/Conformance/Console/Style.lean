import Conformance.Number.Numeral
import Conformance.Text.Blank
import Conformance.Text.Lower

/-!
# Styles

A style is written in words: attributes, `not` in front of one that is to be absent, a colour,
`on` with the colour of the background, and `link` with an address. Styles that look the same
have the same usual spelling, whatever the order of their words. A text that is no style is
spelled in lower case instead.
-/

namespace Conformance

/-- What text can look like apart from its colours, in the order of the usual spelling. -/
inductive StyleAttribute
  | bold
  | dim
  | italic
  | underline
  | blink
  | fastBlink
  | reverse
  | conceal
  | strike
  | doubleUnderline
  | frame
  | encircle
  | overline
deriving DecidableEq, Repr

namespace StyleAttribute

/-- All attributes in their order. -/
def all : List StyleAttribute :=
  [bold, dim, italic, underline, blink, fastBlink, reverse, conceal, strike, doubleUnderline,
    frame, encircle, overline]

/-- The word for an attribute. -/
def name : StyleAttribute → String
  | bold => "bold"
  | dim => "dim"
  | italic => "italic"
  | underline => "underline"
  | blink => "blink"
  | fastBlink => "blink2"
  | reverse => "reverse"
  | conceal => "conceal"
  | strike => "strike"
  | doubleUnderline => "underline2"
  | frame => "frame"
  | encircle => "encircle"
  | overline => "overline"

/-- The short word for an attribute that has one. -/
def shortName? : StyleAttribute → Option String
  | bold => some "b"
  | dim => some "d"
  | italic => some "i"
  | underline => some "u"
  | reverse => some "r"
  | conceal => some "c"
  | strike => some "s"
  | doubleUnderline => some "uu"
  | overline => some "o"
  | blink | fastBlink | frame | encircle => none

/-- The attribute that a word stands for. -/
def ofName? (s : String) : Option StyleAttribute :=
  all.find? fun a => a.name = s || a.shortName? = some s

end StyleAttribute

/-- Why a text is no style. -/
inductive StyleFault
  /-- A word stands for nothing, or the one after it is not what it needs. -/
  | unknown
  /-- A part of a colour that has to be a number is none. -/
  | noNumber
deriving DecidableEq, Repr

/-- A style. The attributes given last come first. -/
structure Style where
  attributes : List (StyleAttribute × Bool) := []
  color : Option String := none
  background : Option String := none
  link : Option String := none
deriving DecidableEq, Repr

namespace Style

/-- The names of colours, with blanks or line ends between them. -/
def colorTable : String :=
  "default black red green yellow blue magenta cyan white bright_black bright_red bright_green
    bright_yellow bright_blue bright_magenta bright_cyan bright_white grey0 gray0 navy_blue
    dark_blue blue3 blue1 dark_green deep_sky_blue4 dodger_blue3 dodger_blue2 green4 spring_green4
    turquoise4 deep_sky_blue3 dodger_blue1 green3 spring_green3 dark_cyan light_sea_green
    deep_sky_blue2 deep_sky_blue1 spring_green2 cyan3 dark_turquoise turquoise2 green1
    spring_green1 medium_spring_green cyan2 cyan1 dark_red deep_pink4 purple4 purple3 blue_violet
    orange4 grey37 gray37 medium_purple4 slate_blue3 royal_blue1 chartreuse4 dark_sea_green4
    pale_turquoise4 steel_blue steel_blue3 cornflower_blue chartreuse3 cadet_blue sky_blue3
    steel_blue1 pale_green3 sea_green3 aquamarine3 medium_turquoise chartreuse2 sea_green2
    sea_green1 aquamarine1 dark_slate_gray2 dark_magenta dark_violet purple light_pink4 plum4
    medium_purple3 slate_blue1 yellow4 wheat4 grey53 gray53 light_slate_grey light_slate_gray
    medium_purple light_slate_blue dark_olive_green3 dark_sea_green light_sky_blue3 sky_blue2
    dark_sea_green3 dark_slate_gray3 sky_blue1 chartreuse1 light_green pale_green1
    dark_slate_gray1 red3 medium_violet_red magenta3 dark_orange3 indian_red hot_pink3
    medium_orchid3 medium_orchid medium_purple2 dark_goldenrod light_salmon3 rosy_brown grey63
    gray63 medium_purple1 gold3 dark_khaki navajo_white3 grey69 gray69 light_steel_blue3
    light_steel_blue yellow3 dark_sea_green2 light_cyan3 light_sky_blue1 green_yellow
    dark_olive_green2 dark_sea_green1 pale_turquoise1 deep_pink3 magenta2 hot_pink2 orchid
    medium_orchid1 orange3 light_pink3 pink3 plum3 violet light_goldenrod3 tan misty_rose3
    thistle3 plum2 khaki3 light_goldenrod2 light_yellow3 grey84 gray84 light_steel_blue1 yellow2
    dark_olive_green1 honeydew2 light_cyan1 red1 deep_pink2 deep_pink1 magenta1 orange_red1
    indian_red1 hot_pink dark_orange salmon1 light_coral pale_violet_red1 orchid2 orchid1 orange1
    sandy_brown light_salmon1 light_pink1 pink1 plum1 gold1 navajo_white1 misty_rose1 thistle1
    yellow1 light_goldenrod1 khaki1 wheat1 cornsilk1 grey100 gray100 grey3 gray3 grey7 gray7
    grey11 gray11 grey15 gray15 grey19 gray19 grey23 gray23 grey27 gray27 grey30 gray30 grey35
    gray35 grey39 gray39 grey42 gray42 grey46 gray46 grey50 gray50 grey54 gray54 grey58 gray58
    grey62 gray62 grey66 gray66 grey70 gray70 grey74 gray74 grey78 gray78 grey82 gray82 grey85
    gray85 grey89 gray89 grey93 gray93"

/-- The names of colours. -/
def colorNames : List String := (colorTable.splitOn "\n").flatMap (·.splitOn " ")

/-- What stands in the parentheses after a word that makes up the rest of a text. -/
def argument? (word : String) (cs : List Char) : Option (List Char) :=
  let start := word.toList ++ ['(']
  if start.isPrefixOf cs ∧ cs.getLast? = some ')' then some (cs.drop start.length).dropLast
  else none

/-- The greatest number of a colour and of each of its parts. -/
def colorLimit : Int := 255

/-- Checks the three parts of a colour. -/
def checkParts (parts : List (List Char)) : Except StyleFault Unit :=
  if parts.length ≠ 3 then .error .unknown
  else
    match parts.mapM Number.readInt? with
    | none => .error .noNumber
    | some ns => if ns.all (· ≤ colorLimit) then .ok () else .error .unknown

/-- Whether a text is a colour by number: six hexadecimal digits or one of the palette. -/
def isNumbered (cs : List Char) : Bool :=
  match cs with
  | '#' :: digits => digits.length = 6 && digits.all fun c => c.isDigit || ('a' ≤ c && c ≤ 'f')
  | _ =>
    match argument? "color" cs with
    | some digits =>
      0 < digits.length && digits.length ≤ 3 && digits.all Char.isDigit &&
        Number.ofDigits digits ≤ colorLimit
    | none => false

/-- Checks that a word in lower case is a colour. -/
def checkColor (cs : List Char) : Except StyleFault Unit :=
  if colorNames.contains (String.ofList cs) || isNumbered cs then .ok ()
  else
    match argument? "rgb" cs with
    | some parts =>
      if !parts.isEmpty && parts.all fun c => c = ',' || (Number.asciiDigit? c).isSome then
        checkParts (parts.splitOn ',')
      else .error .unknown
    | none => .error .unknown

/-- A style with what some words add to it. -/
def withWords (s : Style) : List (List Char) → Except StyleFault Style
  | [] => .ok s
  | word :: rest =>
    let lowered := Text.lower word
    match String.ofList lowered, rest with
    | "on", next :: rest => do
      let color := Text.lower next
      checkColor color
      withWords { s with background := some (String.ofList color) } rest
    | "not", next :: rest =>
      match StyleAttribute.ofName? (String.ofList next) with
      | some a => withWords { s with attributes := (a, false) :: s.attributes } rest
      | none => .error .unknown
    | "link", next :: rest => withWords { s with link := some (String.ofList next) } rest
    | name, rest =>
      match StyleAttribute.ofName? name with
      | some a => withWords { s with attributes := (a, true) :: s.attributes } rest
      | none => do
        checkColor lowered
        withWords { s with color := some name } rest

/-- The style that a text stands for. -/
def read (cs : List Char) : Except StyleFault Style :=
  withWords {} ((cs.splitOnP Text.isBlank).filter fun w => !w.isEmpty)

/-- The words for the attributes of a style. -/
def attributeWords (s : Style) : List String :=
  StyleAttribute.all.filterMap fun a =>
    (s.attributes.lookup a).map fun isOn => if isOn then a.name else "not " ++ a.name

/-- The spelling of a style. The one that changes nothing is `none`. -/
def spelling (s : Style) : String :=
  let words := s.attributeWords ++ s.color.toList ++ (s.background.map ("on " ++ ·)).toList ++
    (s.link.map ("link " ++ ·)).toList
  if words.isEmpty then "none" else " ".intercalate words

/-- The usual spelling of a text that may be a style. It has none if a number is missing. -/
def usual? (cs : List Char) : Option String :=
  match read cs with
  | .ok s => some s.spelling
  | .error .unknown => some (String.ofList (Text.lower (Text.trim cs)))
  | .error .noNumber => none

end Style

end Conformance
