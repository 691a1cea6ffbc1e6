set_option autoImplicit false

namespace Winternitz.CommandLine

inductive Topic
  | program
  | inspect
  | params
  | help
deriving DecidableEq, Repr

namespace Topic

def ofSubcommand? : String → Option Topic
  | "inspect" => some inspect
  | "params" => some params
  | "help" => some help
  | _ => none

def about : Topic → String
  | program => "Validate and inspect WOTS+ public keys"
  | inspect => "Validate a public key document and print its flat form"
  | params => "List the named WOTS+ parameter sets"
  | help => "Print this message or the help of the given subcommand(s)"

def usage : Topic → String
  | program => "wots-pk <COMMAND>"
  | inspect => "wots-pk inspect [OPTIONS] <INPUT>"
  | params => "wots-pk params"
  | help => "wots-pk help [COMMAND]..."

-- What comes after the usage: arguments and options, each with its purpose.
def entries : Topic → String
  | program =>
    "Commands:\n" ++
      "  inspect  " ++ inspect.about ++ "\n" ++
      "  params   " ++ params.about ++ "\n" ++
      "  help     " ++ help.about ++ "\n\n" ++
    "Options:\n" ++
      "  -h, --help  Print help\n"
  | inspect =>
    "Arguments:\n" ++
      "  <INPUT>  JSON key document, or \"-\" to read stdin\n\n" ++
    "Options:\n" ++
      "  -p, --params <PARAMS>  " ++
        "Validate against a named parameter set instead of the document's own\n" ++
      "      --chains           Also print every chain value on its own line\n" ++
      "  -h, --help             Print help\n"
  | params =>
    "Options:\n" ++
      "  -h, --help  Print help\n"
  | help =>
    "Arguments:\n" ++
      "  [COMMAND]...  Print help for the subcommand(s)\n"

def page (topic : Topic) : String :=
  topic.about ++ "\n\nUsage: " ++ topic.usage ++ "\n\n" ++ topic.entries

end Topic

end Winternitz.CommandLine
