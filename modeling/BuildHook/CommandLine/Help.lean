import BuildHook.CommandLine.Basic

namespace BuildHook

def programName : String := "extbuild"

def programVersion : String := "0.1.0"

def programAbout : String :=
  "Packaging lifecycle hook that builds native targets with an external build tool"

def Verb.about : Verb → String
  | .buildExt => "Run the build_ext hook: every configured target, in order"
  | .build => "Run the build phase (build_ext first)"
  | .install => "Run the install phase (build_ext first)"
  | .plan => "Show the steps build_ext would run, without running them"
  | .check => "Check that the configured build tool is on PATH"
  | .info => "Show package metadata"

def Switch.about : Switch → String
  | .json => "Output in JSON format"
  | .debug => "Enable debug logging on stderr"
  | .config => "Use alternate config file"
  | .help => "Print help"
  | .version => "Print version"

namespace Page

def helpAbout : String := "Print this message or the help of the given subcommand(s)"

def listing (entries : List (String × String)) : String :=
  let width := (entries.map fun e ↦ e.1.length).foldl max 0
  String.join <| entries.map fun e ↦
    "  " ++ e.1 ++ String.ofList (List.replicate (width - e.1.length + 2) ' ') ++ e.2 ++ "\n"

def switchEntry (s : Switch) : String × String :=
  (match s.letter with
    | some c => "-" ++ c.toString ++ ", " ++ s.shown
    | none => "    " ++ s.shown, s.about)

def options (verb : Option Verb) : String :=
  "Options:\n" ++ listing ((Switch.available verb).map switchEntry)

def commands : String :=
  "Commands:\n" ++ listing (Verb.all.map (fun v ↦ (v.name, v.about)) ++ [("help", helpAbout)])

def text : Page → String
  | program =>
    programAbout ++ "\n\nUsage: " ++ programName ++ " [OPTIONS] <COMMAND>\n\n" ++ commands ++
      "\n" ++ options none
  | verb v =>
    v.about ++ "\n\nUsage: " ++ programName ++ " " ++ v.name ++ " [OPTIONS]\n\n" ++ options (some v)
  | help =>
    helpAbout ++ "\n\nUsage: " ++ programName ++ " help [COMMAND]...\n\nArguments:\n" ++
      listing [("[COMMAND]...", "Print help for the subcommand(s)")]

end Page

def versionText : String := programName ++ " " ++ programVersion ++ "\n"

/-- Who asks for nothing is shown the page of the program. -/
def Misuse.text : Misuse → String
  | .nothing => Page.program.text
  | .noVerb => "error: '" ++ programName ++ "' requires a subcommand but one was not provided\n"
  | .unknownVerb word => "error: unrecognized subcommand '" ++ word ++ "'\n"
  | .unknownWord word => "error: unexpected argument '" ++ word ++ "' found\n"
  | .repeated s => "error: the argument '" ++ s.shown ++ "' cannot be used multiple times\n"
  | .noValue =>
    "error: a value is required for '" ++ Switch.config.shown ++ "' but none was supplied\n"
  | .unwantedValue value s =>
    "error: unexpected value '" ++ value ++ "' for '" ++ s.shown ++
      "' found; no more were expected\n"

end BuildHook
