/-!
# The banner

## Main definitions

* `shouldShowBanner` : whether the banner is shown for a command line.
* `bannerLines` : the banner.
-/

namespace Sandbox.CommandLine

/-- The version of the program. -/
def version : String := "0.1.0"

/-- Whether the banner is shown for a command line, which begins with the name of the program: for a
command line without arguments, and whenever help or the version is asked for. -/
def shouldShowBanner (arguments : List String) : Bool :=
  arguments.length == 1 ||
    arguments.any (fun a => a == "--help" || a == "-h") ||
    arguments.any (fun a => a == "--version" || a == "-V") ||
    (arguments.length == 2 && arguments.any (· == "help"))

/-- A text in one of the 256 colours. -/
def inPalette (number : Nat) (text : String) : String :=
  "\x1b[38;5;" ++ toString number ++ "m" ++ text ++ "\x1b[39m"

/-- The parts of the lettering, in blue and in orange. -/
def lettering : List (String × Option String) :=
  [("           _", none),
    (" _ __   ___ | |_   _ ", some "_ __ _   _ _ __"),
    ("| '_ \\ / _ \\| | | | |", some " '__| | | | '_ \\"),
    ("| |_) | (_) | | |_| |", some " |  | |_| | | | |"),
    ("| .__/ \\___/|_|\\__, |", some "_|   \\__,_|_| |_|"),
    ("|_|            |___/", none)]

/-- The banner of a program that was built on a day. -/
def bannerLines (built : String) : List String :=
  [""] ++
    lettering.map (fun (blue, orange) =>
      "  " ++ inPalette 33 blue ++ (orange.map (inPalette 208)).getD "") ++
    ["  v" ++ version ++ " (built " ++ built ++ ")", ""]

end Sandbox.CommandLine
