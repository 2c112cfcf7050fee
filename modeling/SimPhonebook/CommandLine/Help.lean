import SimPhonebook.CommandLine.Basic

/-!
# Notices

What the program tells about itself.
-/

namespace SimPhonebook

def programName : Text := "mbim"

def versionText : Text := "dev"

def helpLines : List String :=
  ["Usage: mbim [flags]",
    "",
    "Control MBIM modems. Phonebook operations on the SIM.",
    "",
    "Flags:",
    "  -h, --help           Show context-sensitive help.",
    "  -d, --device=PATH    MBIM control device (default /dev/cdc-wdm0)",
    "                       ($MBIM_DEVICE)",
    "      --config=FILE    Config file (default $XDG_CONFIG_HOME/mbim/config.yaml)",
    "  -v, --verbose        Enable verbose debug output",
    "      --no-open        Do not send MBIM OPEN before the command",
    "      --no-close       Leave the MBIM session open afterwards",
    "      --no-progress    Do not show a spinner while waiting for the device",
    "      --version        Print version and exit",
    "",
    "Phonebook options",
    "  --phonebook-query-configuration",
    "                                   Query the phonebook configuration",
    "  --phonebook-read=INDEX           Read phonebook entry with given index",
    "  --phonebook-read-all             Read all phonebook entries",
    "  --phonebook-write=NAME,NUMBER    Add new phonebook entry",
    "  --phonebook-entry-update=NAME,NUMBER,INDEX",
    "                                   Update phonebook entry with given index",
    "  --phonebook-delete=INDEX         Delete phonebook entry with given index",
    "  --phonebook-delete-all           Delete all phonebook entries"]

def helpText : Text := Text.concat (helpLines.map fun line => Text.ofString line ++ "\n")

def Notice.text : Notice → Text
  | help => helpText
  | version => versionText ++ "\n"

end SimPhonebook
