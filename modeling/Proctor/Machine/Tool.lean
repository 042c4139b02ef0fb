import Proctor.Machine.Tool.Calculating
import Proctor.Machine.Tool.Calendar
import Proctor.Machine.Tool.Column
import Proctor.Machine.Tool.Comparing
import Proctor.Machine.Tool.Condition
import Proctor.Machine.Tool.Copying
import Proctor.Machine.Tool.Counting
import Proctor.Machine.Tool.Digest
import Proctor.Machine.Tool.Editing
import Proctor.Machine.Tool.Encoding
import Proctor.Machine.Tool.Launch
import Proctor.Machine.Tool.Listing
import Proctor.Machine.Tool.Making
import Proctor.Machine.Tool.Moving
import Proctor.Machine.Tool.Naming
import Proctor.Machine.Tool.Ordering
import Proctor.Machine.Tool.Printing
import Proctor.Machine.Tool.Replacing
import Proctor.Machine.Tool.Searching
import Proctor.Machine.Tool.Telling

/-! The tools of the machine by name. -/
namespace Proctor.Machine.Tool

def sleep : Tool Unit := do
  let (_, words) ← optionsFrom [] [] [] true 1 (← args)
  if words = [] then misused "missing operand" 1
  let spans := words.map fun word => (word, interval? word)
  let bad := spans.filter fun (_, span?) => span?.isNone
  bad.forM fun (word, _) => complain s!"invalid time interval {Quoting.text word}" 1
  if bad ≠ [] then hint 1
  let time := spans.foldl (fun sum (_, span?) => sum + span?.getD 0) 0
  modify fun work => { work with time }

def renamed (name : String) (option : String) (tool : Tool Unit) : Tool Unit := do
  modify fun work =>
    { work with
      call := { work.call with name, label := s!"{name}: ", args := option.toList :: work.call.args } }
  tool

def all : List (String × Tool Unit) :=
  [("[", bracketCondition), ("arch", arch), ("base32", base32), ("base64", base64),
    ("basename", basename), ("cat", cat), ("chmod", chmod), ("cksum", cksum), ("cmp", cmp),
    ("comm", comm), ("cp", cp), ("cut", cut), ("date", date), ("diff", diff), ("dirname", dirname),
    ("echo", echo), ("egrep", renamed "grep" "-E" grep), ("expand", expand), ("expr", expr),
    ("factor", factor), ("false", fail 1), ("fgrep", renamed "grep" "-F" grep), ("fold", fold),
    ("grep", grep), ("groups", groups), ("head", head), ("hostname", hostname), ("id", Tool.id),
    ("join", join), ("ln", ln), ("logname", logname), ("ls", ls), ("md5sum", md5sum),
    ("mkdir", mkdir), ("mkfifo", mkfifo), ("mktemp", mktemp), ("mv", mv), ("nl", nl),
    ("nproc", nproc), ("od", od), ("paste", paste), ("printenv", printenv), ("printf", printf),
    ("pwd", pwd), ("readlink", readlink), ("realpath", realpath), ("rev", rev), ("rm", rm),
    ("rmdir", rmdir), ("sed", sed), ("seq", seq), ("sha1sum", sha1sum), ("sha224sum", sha224sum),
    ("sha256sum", sha256sum), ("sha384sum", sha384sum), ("sha512sum", sha512sum), ("sleep", sleep),
    ("sort", sort), ("stat", stat), ("sum", sum), ("sync", sync), ("tac", tac), ("tail", tail),
    ("tee", tee), ("test", testCondition), ("touch", touch), ("tr", tr), ("true", pure ()),
    ("truncate", truncate), ("tty", tty), ("uname", uname), ("unexpand", unexpand), ("uniq", uniq),
    ("wc", wc), ("which", which), ("whoami", whoami), ("yes", yes)]

def find? (name : String) : Option (Tool Unit) := all.lookup name

end Proctor.Machine.Tool
