namespace CallProfile.CommandLine

inductive Style where
  | bold | red | green | yellow
deriving DecidableEq

namespace Style

def code : Style → List Char
  | bold => ['1']
  | red => ['3', '1']
  | green => ['3', '2']
  | yellow => ['3', '3']

def sequence (code : List Char) : List Char := '\x1b' :: '[' :: code ++ ['m']

def reset : List Char := sequence ['0']

/-- The text with a style set again behind every reset. -/
def restyle (style : List Char) : List Char → List Char
  | '\x1b' :: '[' :: '0' :: 'm' :: rest => reset ++ style ++ restyle style rest
  | c :: rest => c :: restyle style rest
  | [] => []

def apply (on : Bool) (style : Style) (text : String) : String :=
  if on then
    let start := sequence style.code
    .ofList (start ++ restyle start text.toList ++ reset)
  else text

end Style

end CallProfile.CommandLine
