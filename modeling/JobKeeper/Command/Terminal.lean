/-
  File:      JobKeeper/Command/Terminal.lean
  Subject:   What the command line prints: sections of labelled lines, results and errors.
-/
import JobKeeper.Text.Join

namespace JobKeeper

/-- A terminal, by whether it can show pictures. -/
structure Terminal where
  showsPictures : Bool := true

namespace Terminal

/-- The terminal of a locale: one whose name ends in `UTF-8`, in letters of either case, shows
    pictures. -/
def ofLocale (locale : String) : Terminal :=
  ⟨"8-FTU".toList.isPrefixOf (locale.toList.map Char.toUpper).reverse⟩

/-! ## 1. Lines with a picture in front -/

/-- A line after a picture. A terminal that shows none still has the space. -/
def pictured (t : Terminal) (picture line : String) : String :=
  (if t.showsPictures then picture ++ " " else "") ++ " " ++ line ++ "\n"

def success (t : Terminal) (message : String) : String := t.pictured "✅" message

def error (t : Terminal) (message : String) : String := t.pictured "❌" message

/-- What is printed after the service has stopped. -/
def goodbye (t : Terminal) : String := "\n" ++ t.pictured "✨" "flink-job-manager stopped."

/-! ## 2. Sections -/

/-- The text with spaces after it up to a width. -/
def padded (width : Nat) (s : String) : String :=
  s ++ String.ofList (List.replicate (width - s.length) ' ')

/-- A line about a command. -/
def commandLine (name description : String) : String :=
  "  " ++ padded 32 name ++ " " ++ description

/-- A line with a label. -/
def statusLine (label value : String) : String := "  " ++ label ++ ": " ++ value

/-- A titled block of lines with an empty line after it. -/
def sectionText (t : Terminal) (title : String) (lines : List String) : String :=
  t.pictured "✨" title ++ String.join (lines.map (· ++ "\n")) ++ "\n"

/-! ## 3. Help -/

/-- What the program is, what it can do, and how it is called. -/
def help (t : Terminal) : String :=
  "\n flink-job-manager \nKeeps behavior and rule pipelines running on Flink SQL.\n\n"
    ++ t.sectionText "Service"
      [commandLine "run" "Start the job manager (default)",
        commandLine "check-config" "Load and validate the configuration"]
    ++ t.sectionText "Tools"
      [commandLine "render <behavior|rule> <job.json>" "Print the statements a job would submit",
        commandLine "help" "Show this message"]
    ++ t.sectionText "Flags"
      [commandLine "--config <path>" "Configuration file (default ./config.yml)",
        commandLine "--log-level <level>" "trace, debug, info, warn or error",
        commandLine "--api-host <host>" "Bind host of the jobs API",
        commandLine "--api-port <port>" "Bind port of the jobs API",
        commandLine "--kafka-group-id <id>" "Consumer group used by render"]
    ++ "\n Usage: flink-job-manager [command] [flags]\n\n"

end Terminal

end JobKeeper
