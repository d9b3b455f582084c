/-!
# Styled text

A style is a list of numeric codes. Text is styled by the escape sequence of its style in front of
it and the one that ends all styles behind it. Where a text ends all styles in the middle, its own
style starts again.

## Main definitions

* `Style` — the styles of reports and help.
* `Style.apply` — a text in a style.
* `Style.paint` — the same, if styles are wanted.
-/

namespace MessageCatalog.Text

/-- The styles of reports and help. -/
inductive Style where
  | bold
  | boldUnderlined
  | boldRed
  | boldYellow
  | boldCyan
  | red
  | green
  | blue
  | dimmed
  deriving DecidableEq, Repr

namespace Style

/-- The codes of a style. -/
def codes : Style → String
  | .bold => "1"
  | .boldUnderlined => "1;4"
  | .boldRed => "1;31"
  | .boldYellow => "1;33"
  | .boldCyan => "1;36"
  | .red => "31"
  | .green => "32"
  | .blue => "34"
  | .dimmed => "2"

/-- The escape sequence that starts a style. -/
def start (style : Style) : List Char :=
  '\x1b' :: '[' :: style.codes.toList ++ ['m']

/-- The escape sequence that ends all styles. -/
def stop : List Char :=
  ['\x1b', '[', '0', 'm']

/-- A text in which a style starts again wherever all styles end. -/
def resume (style : Style) : List Char → List Char
  | [] => []
  | '\x1b' :: '[' :: '0' :: 'm' :: rest => stop ++ style.start ++ resume style rest
  | c :: rest => c :: resume style rest

/-- A text in a style. -/
def apply (style : Style) (text : String) : String :=
  String.ofList (style.start ++ style.resume text.toList ++ stop)

/-- A text in a style if styles are wanted, and as it is otherwise. -/
def paint (colored : Bool) (style : Style) (text : String) : String :=
  if colored then style.apply text else text

@[simp] theorem paint_false (style : Style) (text : String) : paint false style text = text := rfl

end Style

end MessageCatalog.Text
