import AgentGateway.Text.Blank
import AgentGateway.Text.Casing
import AgentGateway.Text.Letter

/-! Styles as they are written, and the one form of every style.

A style is a row of words: attributes, by their full or short names, each of them or
with `not` in front; a colour, and one behind `on` for the ground; and an address behind
`link`. Two texts mean the same style when their forms are equal. What is no style is
told apart by its words alone. -/
namespace AgentGateway.Text

structure Style where
  /-- What is said of each attribute, the last word first. -/
  attributes : List (String × Bool)
  colour : Option String
  ground : Option String
  link : Option String
deriving DecidableEq, Repr

namespace Style

/-! ### Words -/

/-- The attributes, in the order in which a form tells them. -/
def attributeNames : List String :=
  ["bold", "dim", "italic", "underline", "blink", "blink2", "reverse", "conceal", "strike",
    "underline2", "frame", "encircle", "overline"]

def shortNames : List (String × String) :=
  [("b", "bold"), ("c", "conceal"), ("d", "dim"), ("i", "italic"), ("o", "overline"),
    ("r", "reverse"), ("s", "strike"), ("u", "underline"), ("uu", "underline2")]

/-- The attribute that a word names. -/
def attribute? (word : String) : Option String :=
  if attributeNames.contains word then some word else shortNames.lookup word

/-- The words of a text. -/
def wordsOf (s : List Char) : List String := (wordsBy isBlankOrSeparator s).map String.ofList

def colourNames : List String :=
  wordsOf "black red green yellow blue magenta cyan white bright_black bright_red bright_green
  bright_yellow bright_blue bright_magenta bright_cyan bright_white grey0 gray0 navy_blue
  dark_blue blue3 blue1 dark_green deep_sky_blue4 dodger_blue3 dodger_blue2 green4
  spring_green4 turquoise4 deep_sky_blue3 dodger_blue1 green3 spring_green3 dark_cyan
  light_sea_green deep_sky_blue2 deep_sky_blue1 spring_green2 cyan3 dark_turquoise turquoise2
  green1 spring_green1 medium_spring_green cyan2 cyan1 dark_red deep_pink4 purple4 purple3
  blue_violet orange4 grey37 gray37 medium_purple4 slate_blue3 royal_blue1 chartreuse4
  dark_sea_green4 pale_turquoise4 steel_blue steel_blue3 cornflower_blue chartreuse3
  cadet_blue sky_blue3 steel_blue1 pale_green3 sea_green3 aquamarine3 medium_turquoise
  chartreuse2 sea_green2 sea_green1 aquamarine1 dark_slate_gray2 dark_magenta dark_violet
  purple light_pink4 plum4 medium_purple3 slate_blue1 yellow4 wheat4 grey53 gray53
  light_slate_grey light_slate_gray medium_purple light_slate_blue dark_olive_green3
  dark_sea_green light_sky_blue3 sky_blue2 dark_sea_green3 dark_slate_gray3 sky_blue1
  chartreuse1 light_green pale_green1 dark_slate_gray1 red3 medium_violet_red magenta3
  dark_orange3 indian_red hot_pink3 medium_orchid3 medium_orchid medium_purple2 dark_goldenrod
  light_salmon3 rosy_brown grey63 gray63 medium_purple1 gold3 dark_khaki navajo_white3 grey69
  gray69 light_steel_blue3 light_steel_blue yellow3 dark_sea_green2 light_cyan3
  light_sky_blue1 green_yellow dark_olive_green2 dark_sea_green1 pale_turquoise1 deep_pink3
  magenta2 hot_pink2 orchid medium_orchid1 orange3 light_pink3 pink3 plum3 violet
  light_goldenrod3 tan misty_rose3 thistle3 plum2 khaki3 light_goldenrod2 light_yellow3 grey84
  gray84 light_steel_blue1 yellow2 dark_olive_green1 honeydew2 light_cyan1 red1 deep_pink2
  deep_pink1 magenta1 orange_red1 indian_red1 hot_pink dark_orange salmon1 light_coral
  pale_violet_red1 orchid2 orchid1 orange1 sandy_brown light_salmon1 light_pink1 pink1 plum1
  gold1 navajo_white1 misty_rose1 thistle1 yellow1 light_goldenrod1 khaki1 wheat1 cornsilk1
  grey100 gray100 grey3 gray3 grey7 gray7 grey11 gray11 grey15 gray15 grey19 gray19 grey23
  gray23 grey27 gray27 grey30 gray30 grey35 gray35 grey39 gray39 grey42 gray42 grey46 gray46
  grey50 gray50 grey54 gray54 grey58 gray58 grey62 gray62 grey66 gray66 grey70 gray70 grey74
  gray74 grey78 gray78 grey82 gray82 grey85 gray85 grey89 gray89 grey93 gray93".toList

/-- Why a word is no colour. -/
inductive ColourFault where
  | unknown
  /-- One of the three parts is empty. -/
  | emptyPart
deriving DecidableEq, Repr

/-- The number in decimal digits of any script. -/
def number? (s : List Char) : Option Nat :=
  if s.isEmpty then none else s.foldlM (fun n c => (decimalDigit? c).map (10 * n + ·)) 0

def isHexDigit (c : Char) : Bool := ('0' ≤ c && c ≤ '9') || ('a' ≤ c && c ≤ 'f')

/-- What stands between a beginning and a closing parenthesis at the end. -/
def inside? (beginning : String) (word : List Char) : Option (List Char) :=
  if beginning.toList.isPrefixOf word ∧ word.getLast? = some ')' then
    some (word.drop beginning.length).dropLast
  else none

/-- Three numbers up to 255 between commas. -/
def parts (s : List Char) : Except ColourFault Unit :=
  let pieces := splitAt ',' s
  if pieces.length ≠ 3 ∨ s.any (fun c => c != ',' && (decimalDigit? c).isNone) then .error .unknown
  else match pieces.mapM number? with
    | none => .error .emptyPart
    | some ns => if ns.all (· ≤ 255) then .ok () else .error .unknown

/-- A colour by its name, by its number, by six hexadecimal digits or by three parts. -/
def readColour (word : String) : Except ColourFault String :=
  let name := lower word
  let found : Except ColourFault Unit :=
    if name = "default" ∨ colourNames.contains name then .ok ()
    else match name.toList, inside? "color(" name.toList, inside? "rgb(" name.toList with
      | '#' :: digits, _, _ =>
        if digits.length = 6 ∧ digits.all isHexDigit then .ok () else .error .unknown
      | _, some digits, _ => match number? digits with
        | some n =>
          if digits.all Char.isDigit ∧ digits.length ≤ 3 ∧ n ≤ 255 then .ok () else .error .unknown
        | none => .error .unknown
      | _, _, some s => parts s
      | _, _, none => .error .unknown
  found.map fun _ => name

/-! ### Reading -/

/-- The style that some words add to. -/
def readWords (s : Style) : List String → Except ColourFault Style
  | [] => .ok s
  | word :: rest =>
    match lower word, rest with
    | "on", ground :: rest => do readWords { s with ground := some (← readColour ground) } rest
    | "not", name :: rest => match attribute? name with
      | some a => readWords { s with attributes := (a, false) :: s.attributes } rest
      | none => .error .unknown
    | "link", address :: rest => readWords { s with link := some address } rest
    | name, rest =>
      if ["on", "not", "link"].contains name then .error .unknown
      else match attribute? name with
        | some a => readWords { s with attributes := (a, true) :: s.attributes } rest
        | none => do readWords { s with colour := some (← readColour name) } rest

def plain : Style := ⟨[], none, none, none⟩

def read (s : List Char) : Except ColourFault Style :=
  if trimBy isBlankOrSeparator s = "none".toList then .ok plain else readWords plain (wordsOf s)

/-! ### The form -/

def formWords (s : Style) : List String :=
  (attributeNames.filterMap fun a =>
    (s.attributes.lookup a).map fun isSet => if isSet then a else s!"not {a}") ++
    s.colour.toList ++ (s.ground.toList.flatMap fun c => ["on", c]) ++
    s.link.toList.flatMap fun address => ["link", address]

def form (s : Style) : String :=
  match formWords s with
  | [] => "none"
  | words => String.intercalate " " words

/-- The name by which texts of one style are equal; what is no style stands for itself, in
small letters. -/
def normalName (s : List Char) : Except ColourFault String :=
  match read s with
  | .ok style => .ok style.form
  | .error .unknown => .ok (lower (String.ofList (trimBy isBlankOrSeparator s)))
  | .error f => .error f

end Style
end AgentGateway.Text
