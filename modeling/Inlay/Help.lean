import Inlay.Text.Basic

/-!
# Help

What the command line prints about itself.
-/

namespace Inlay.Help

def version : Text := text "rpyfmt v0.1.0\n"

def usage : Text := text "
Usage: rpyfmt [options] [paths...]

Format the Python embedded in Ren'Py scripts: \"$\" statements and
\"python:\" blocks (including \"init python\" and \"python early\").
Everything outside those regions is left exactly as it was.

Paths may be files or directories; directories are searched for *.rpy
files. With no path, or \"-\", the script is read from stdin and the
result written to stdout.

Options:
  --check                     Report files that would change; write nothing
  -w, --write                 Rewrite changed files in place
  -l, --line-length <n>       Line length for python blocks (default: 88)
  --inline-line-length <n>    Line length for \"$\" statements (default: 1000)
  --strict                    Exit 1 when any region could not be formatted
  -j, --concurrency <n>       Formatter processes at once (default: 4)
  --timeout <duration>        Limit per region, e.g. 10s or 500ms (default: 10s)
  --engine <black|ruff>       Python formatter to run (default: black)
  --engine-command <path>     Executable to run instead of the engine's default
  --indent-policy <policy>    reject | expand-tabs, for mixed tabs and spaces
  --tab-width <n>             Tab width for expand-tabs (default: 8)
  -v, --verbose               Show regions that were left unchanged
  -d, --debug                 Debug logging
  -h, --help                  Show this help
  -V, --version               Show the version

Configuration:
  ~/.config/rpyfmt.json and ./rpyfmt.config.json are merged, the project
  file winning. Command line options override both.

Exit status:
  0  success
  1  a file could not be processed, --check found changes, or --strict
     and a region failed
  2  invalid command line

Examples:
  rpyfmt game/                      # print every formatted script
  rpyfmt --write game/              # format in place
  rpyfmt --check game/script.rpy    # CI check
  cat script.rpy | rpyfmt -         # filter
"

end Inlay.Help
