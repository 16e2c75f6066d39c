import ShaderLiterals.Programs.Execution
import ShaderLiterals.Programs.Tool.Arguments
import ShaderLiterals.Programs.Tool.Awk
import ShaderLiterals.Programs.Tool.Calculate
import ShaderLiterals.Programs.Tool.Checksum
import ShaderLiterals.Programs.Tool.Compare
import ShaderLiterals.Programs.Tool.Count
import ShaderLiterals.Programs.Tool.Dump
import ShaderLiterals.Programs.Tool.Edit
import ShaderLiterals.Programs.Tool.Find
import ShaderLiterals.Programs.Tool.Grep
import ShaderLiterals.Programs.Tool.Listing
import ShaderLiterals.Programs.Tool.Make
import ShaderLiterals.Programs.Tool.Names
import ShaderLiterals.Programs.Tool.Place
import ShaderLiterals.Programs.Tool.Record
import ShaderLiterals.Programs.Tool.Remove
import ShaderLiterals.Programs.Tool.Report
import ShaderLiterals.Programs.Tool.Rights
import ShaderLiterals.Programs.Tool.Say
import ShaderLiterals.Programs.Tool.Show
import ShaderLiterals.Programs.Tool.Sort
import ShaderLiterals.Programs.Tool.Translate
import ShaderLiterals.Programs.Tool.Write

/-! # The tools by their names -/

namespace ShaderLiterals.Programs

/-- Tools that read, change and count text. -/
def textTools : List (String × Tool) :=
  [("cat", cat), ("comm", comm), ("cut", cut), ("expand", expandTool), ("fold", foldTool),
    ("head", head), ("join", join), ("nl", nl), ("od", od), ("paste", paste), ("rev", rev),
    ("shuf", shuf), ("sort", sort), ("split", split), ("tac", tac), ("tail", tail), ("tee", tee),
    ("tr", tr), ("unexpand", unexpandTool), ("uniq", uniq), ("wc", wc), ("yes", yes)]

/-- Tools that calculate and print. -/
def calculatingTools : List (String × Tool) :=
  [("echo", echo), ("printf", printf), ("expr", expr), ("factor", factor), ("seq", seq),
    ("test", test false), ("[", test true), ("sum", sum), ("cksum", cksum),
    ("md5sum", DigestKind.md5.tool), ("sha1sum", DigestKind.sha1.tool),
    ("sha224sum", DigestKind.sha224.tool), ("sha256sum", DigestKind.sha256.tool),
    ("sha384sum", DigestKind.sha384.tool), ("sha512sum", DigestKind.sha512.tool),
    ("base64", encodingTool Encoding.base64), ("base32", encodingTool Encoding.base32),
    ("basenc", basenc)]

/-- Tools that make, move and look at files. -/
def fileTools : List (String × Tool) :=
  [("basename", basename), ("chgrp", chgrp), ("chmod", chmod), ("chown", chown), ("cp", cp),
    ("dd", dd), ("dir", dir), ("dirname", dirname), ("install", install), ("link", linkTool),
    ("ln", ln), ("ls", ls), ("mkdir", mkdir), ("mkfifo", mkfifo), ("mktemp", mktemp), ("mv", mv),
    ("pwd", pwd), ("readlink", readlink), ("realpath", realpath), ("rm", rm), ("rmdir", rmdir),
    ("stat", stat), ("touch", touch), ("truncate", truncate), ("unlink", unlink), ("vdir", vdir)]

/-- Tools that tell something of the machine, or wait for it. -/
def reportTools : List (String × Tool) :=
  [("arch", arch), ("date", date), ("groups", groups), ("id", identity), ("logname", logname),
    ("nproc", nproc), ("printenv", printenv), ("sleep", sleep), ("sync", sync), ("tty", tty),
    ("uname", uname), ("which", which), ("whoami", whoami)]

/-- Tools that search, compare and edit, with the status that each ends with if it cannot write. -/
def searchTools : List (String × Tool × Nat) :=
  [("grep", grep, 2), ("egrep", egrep, 2), ("fgrep", fgrep, 2), ("sed", sed, 4), ("diff", diff, 2),
    ("cmp", cmp, 2)]

/-- Tools that start other programs. -/
def startingTools : List (String × (Starter → Call → Job Ending)) :=
  [("awk", awk), ("mawk", awk), ("env", env), ("find", find), ("nice", nice), ("nohup", nohup),
    ("stdbuf", stdbuf), ("timeout", timeout), ("xargs", xargs)]

def tools : Installation :=
  (textTools ++ calculatingTools ++ fileTools ++ reportTools).map
      (fun (name, tool) => (name, Program.ofTool tool)) ++
    searchTools.map (fun (name, tool, trouble) => (name, Program.ofToolWith trouble tool)) ++
    startingTools.map fun (name, tool) => (name, Program.ofStarter tool)

end ShaderLiterals.Programs
