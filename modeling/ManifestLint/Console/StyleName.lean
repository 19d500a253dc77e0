import ManifestLint.Decimal.Reading
import ManifestLint.Text.Lower

/-!
# Names of styles

A style is described by words: attributes, which may be denied, a color, a color behind `on` for the
background, and a link.  One style has many descriptions, so names of styles are compared in a
normal form: attributes by their full names in a fixed order, then the colors, then the link.  What
describes no style is compared in small letters.

* `styleName` is the normal form of a description.
-/

namespace ManifestLint.Markup

open ManifestLint.Text

/-- The attributes in their order, each with its spellings. -/
def attributeNames : List (String × List String) := [
  ("bold", ["bold", "b"]), ("dim", ["dim", "d"]), ("italic", ["italic", "i"]),
  ("underline", ["underline", "u"]), ("blink", ["blink"]), ("blink2", ["blink2"]),
  ("reverse", ["reverse", "r"]), ("conceal", ["conceal", "c"]), ("strike", ["strike", "s"]),
  ("underline2", ["underline2", "uu"]), ("frame", ["frame"]), ("encircle", ["encircle"]),
  ("overline", ["overline", "o"])]

/-- The attribute with a spelling. -/
def attribute? (word : String) : Option String :=
  (attributeNames.find? fun (_, spellings) => spellings.contains word).map Prod.fst

/-- The colors that have names. -/
def colorNames : List String := [
  "black", "red", "green", "yellow", "blue", "magenta", "cyan", "white", "bright_black",
  "bright_red", "bright_green", "bright_yellow", "bright_blue", "bright_magenta", "bright_cyan",
  "bright_white", "grey0", "gray0", "navy_blue", "dark_blue", "blue3", "blue1", "dark_green",
  "deep_sky_blue4", "dodger_blue3", "dodger_blue2", "green4", "spring_green4", "turquoise4",
  "deep_sky_blue3", "dodger_blue1", "green3", "spring_green3", "dark_cyan", "light_sea_green",
  "deep_sky_blue2", "deep_sky_blue1", "spring_green2", "cyan3", "dark_turquoise", "turquoise2",
  "green1", "spring_green1", "medium_spring_green", "cyan2", "cyan1", "dark_red", "deep_pink4",
  "purple4", "purple3", "blue_violet", "orange4", "grey37", "gray37", "medium_purple4",
  "slate_blue3", "royal_blue1", "chartreuse4", "dark_sea_green4", "pale_turquoise4", "steel_blue",
  "steel_blue3", "cornflower_blue", "chartreuse3", "cadet_blue", "sky_blue3", "steel_blue1",
  "pale_green3", "sea_green3", "aquamarine3", "medium_turquoise", "chartreuse2", "sea_green2",
  "sea_green1", "aquamarine1", "dark_slate_gray2", "dark_magenta", "dark_violet", "purple",
  "light_pink4", "plum4", "medium_purple3", "slate_blue1", "yellow4", "wheat4", "grey53", "gray53",
  "light_slate_grey", "light_slate_gray", "medium_purple", "light_slate_blue", "dark_olive_green3",
  "dark_sea_green", "light_sky_blue3", "sky_blue2", "dark_sea_green3", "dark_slate_gray3",
  "sky_blue1", "chartreuse1", "light_green", "pale_green1", "dark_slate_gray1", "red3",
  "medium_violet_red", "magenta3", "dark_orange3", "indian_red", "hot_pink3", "medium_orchid3",
  "medium_orchid", "medium_purple2", "dark_goldenrod", "light_salmon3", "rosy_brown", "grey63",
  "gray63", "medium_purple1", "gold3", "dark_khaki", "navajo_white3", "grey69", "gray69",
  "light_steel_blue3", "light_steel_blue", "yellow3", "dark_sea_green2", "light_cyan3",
  "light_sky_blue1", "green_yellow", "dark_olive_green2", "dark_sea_green1", "pale_turquoise1",
  "deep_pink3", "magenta2", "hot_pink2", "orchid", "medium_orchid1", "orange3", "light_pink3",
  "pink3", "plum3", "violet", "light_goldenrod3", "tan", "misty_rose3", "thistle3", "plum2",
  "khaki3", "light_goldenrod2", "light_yellow3", "grey84", "gray84", "light_steel_blue1", "yellow2",
  "dark_olive_green1", "honeydew2", "light_cyan1", "red1", "deep_pink2", "deep_pink1", "magenta1",
  "orange_red1", "indian_red1", "hot_pink", "dark_orange", "salmon1", "light_coral",
  "pale_violet_red1", "orchid2", "orchid1", "orange1", "sandy_brown", "light_salmon1",
  "light_pink1", "pink1", "plum1", "gold1", "navajo_white1", "misty_rose1", "thistle1", "yellow1",
  "light_goldenrod1", "khaki1", "wheat1", "cornsilk1", "grey100", "gray100", "grey3", "gray3",
  "grey7", "gray7", "grey11", "gray11", "grey15", "gray15", "grey19", "gray19", "grey23", "gray23",
  "grey27", "gray27", "grey30", "gray30", "grey35", "gray35", "grey39", "gray39", "grey42",
  "gray42", "grey46", "gray46", "grey50", "gray50", "grey54", "gray54", "grey58", "gray58",
  "grey62", "gray62", "grey66", "gray66", "grey70", "gray70", "grey74", "gray74", "grey78",
  "gray78", "grey82", "gray82", "grey85", "gray85", "grey89", "gray89", "grey93", "gray93"]

/-- What stands between parentheses behind a name. -/
def argument? (name : String) (word : List Char) : Option (List Char) :=
  let start := name.toList ++ ['(']
  if start.isPrefixOf word && word.getLast? = some ')' then
    some ((word.drop start.length).dropLast)
  else none

/-- Whether a text is a whole number below 256. -/
def isLevel (text : List Char) : Bool :=
  text.all isDecimal && (Decimal.readWhole? (.ofList text)).any (· ≤ 255)

/-- Whether a word in small letters is a color: a name, a number, or levels of red, green and blue
in either of two notations. -/
def isColor (word : List Char) : Bool :=
  let number := argument? "color" word
  let levels := argument? "rgb" word
  word = "default".toList || colorNames.contains (.ofList word)
    || (word.head? = some '#' && word.length = 7
      && word.tail.all fun c => c.isDigit || ('a' ≤ c && c ≤ 'f'))
    || number.any (fun text => text.length ≤ 3 && text.all Char.isDigit && isLevel text)
    || levels.any (fun text => (text.splitOn ',').length = 3 && (text.splitOn ',').all isLevel)

/-- What words say about a style. -/
structure Style where
  attributes : List (String × Bool) := []
  color : Option (List Char) := none
  background : Option (List Char) := none
  link : Option (List Char) := none

namespace Style

/-- The style that words describe. -/
def ofWords? (style : Style) : List (List Char) → Option Style
  | [] => some style
  | word :: rest =>
    let lower := lowerChars word
    if lower = "on".toList then
      match rest with
      | [] => none
      | color :: rest =>
        let name := lowerChars color
        if isColor name then ofWords? { style with background := some name } rest else none
    else if lower = "not".toList then
      match rest with
      | [] => none
      | denied :: rest =>
        match attribute? (.ofList denied) with
        | none => none
        | some name => ofWords? { style with attributes := (name, false) :: style.attributes } rest
    else if lower = "link".toList then
      match rest with
      | [] => none
      | link :: rest => ofWords? { style with link := some link } rest
    else
      match attribute? (.ofList lower) with
      | some name => ofWords? { style with attributes := (name, true) :: style.attributes } rest
      | none =>
        if isColor lower then ofWords? { style with color := some lower } rest else none

/-- The words of a style in the normal form. -/
def words (style : Style) : List (List Char) :=
  let attributes := attributeNames.flatMap fun (name, _) =>
    match style.attributes.lookup name with
    | none => []
    | some true => [name.toList]
    | some false => ["not".toList, name.toList]
  let background := (style.background.map fun color => ["on".toList, color]).getD []
  let link := (style.link.map fun link => ["link".toList, link]).getD []
  attributes ++ style.color.toList ++ background ++ link

end Style

/-- The words between the blanks of a text. -/
def splitWords (text : List Char) : List (List Char) :=
  ((text.map fun c => if isBlank c then ' ' else c).splitOn ' ').filter (!·.isEmpty)

/-- The normal form of a description. -/
def styleName (description : List Char) : List Char :=
  let plain := "none".toList
  if trim isBlank description = plain then plain
  else
    match Style.ofWords? {} (splitWords description) with
    | some style => if style.words.isEmpty then plain else [' '].intercalate style.words
    | none => lowerChars (trim isBlank description)

end ManifestLint.Markup
