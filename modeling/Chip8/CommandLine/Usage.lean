import Chip8.CommandLine.Options

/-!
# Help on the command line
-/

namespace Chip8.Options

/-- The choices of a flag between braces. -/
def choices (names : List String) : String := "\x7b" ++ ",".intercalate names ++ "\x7d"

/-- The names of the colour schemes in alphabetical order. -/
def schemeChoices : String := choices (ColourScheme.names.mergeSort (· ≤ ·))

/-- The names of the log levels. -/
def levelChoices : String := choices LogLevel.names

/-- How the console program is called. -/
def usage : List String := [
  "usage: chax [-h] [--frames FRAMES] [--ips IPS] [--seed SEED] [--realtime]",
  "            [--snapshot SNAPSHOT] [--scale SCALE]",
  "            [--color-scheme " ++ schemeChoices ++ "] [--print-frame]",
  "            [--log-level " ++ levelChoices ++ "]",
  "            rom"]

/-- What the console program and its options do. -/
def help : List String := usage ++ [
  "",
  "Run a CHIP-8 ROM headlessly",
  "",
  "positional arguments:",
  "  rom                   Path to the CHIP-8 ROM file",
  "",
  "options:",
  "  -h, --help            show this help message and exit",
  "  --frames FRAMES       Number of 60 Hz frames to run (default: 600)",
  "  --ips IPS             Instructions per second (default: 700)",
  "  --seed SEED           Seed for the random number source (default: 0)",
  "  --realtime            Pace execution to wall-clock time instead of running flat out",
  "  --snapshot SNAPSHOT   Write the final frame to this image file",
  "  --scale SCALE         Snapshot upscaling factor (default: 8)",
  "  --color-scheme " ++ schemeChoices,
  "                        Snapshot color scheme (default: classic)",
  "  --print-frame         Print the final frame as text",
  "  --log-level " ++ levelChoices,
  "                        Console log level (default: INFO)"]

end Chip8.Options
