import ShaderLiterals.Programs.Raw

/-! # Signals -/

namespace ShaderLiterals.Programs.Signal

/-- The signals, in the order of their numbers from 1 on: the name of each, which is a number if it
has none, and what is said of a program that it ended. -/
def table : List (String × String) :=
  [("HUP", "Hangup"), ("INT", ""), ("QUIT", "Quit"), ("ILL", "Illegal instruction"),
    ("TRAP", "Trace/breakpoint trap"), ("ABRT", "Aborted"), ("BUS", "Bus error"),
    ("FPE", "Floating point exception"), ("KILL", "Killed"), ("USR1", "User defined signal 1"),
    ("SEGV", "Segmentation fault"), ("USR2", "User defined signal 2"), ("PIPE", ""),
    ("ALRM", "Alarm clock"), ("TERM", "Terminated"), ("16", "Stack fault"),
    ("CHLD", "Child exited"), ("CONT", "Continued"), ("STOP", "Stopped (signal)"),
    ("TSTP", "Stopped"), ("TTIN", "Stopped (tty input)"), ("TTOU", "Stopped (tty output)"),
    ("URG", "Urgent I/O condition"), ("XCPU", "CPU time limit exceeded"),
    ("XFSZ", "File size limit exceeded"), ("VTALRM", "Virtual timer expired"),
    ("PROF", "Profiling timer expired"), ("WINCH", "Window changed"), ("IO", "I/O possible"),
    ("PWR", "Power failure"), ("SYS", "Bad system call")]

/-- The number of the last signal. -/
def last : Nat := 64

/-- The name of a signal; those from 34 on are counted from both ends. -/
def name (signal : Nat) : String :=
  match table[signal - 1]? with
  | some (name, _) => if signal = 0 then "EXIT" else name
  | none =>
      if signal < 34 then toString signal
      else if signal = 34 then "RTMIN"
      else if signal < 50 then s!"RTMIN+{signal - 34}"
      else if signal < last then s!"RTMAX-{last - signal}"
      else "RTMAX"

/-- What is said of a program that a signal ended. -/
def description (signal : Nat) : String :=
  match table[signal - 1]? with
  | some (_, text) => text
  | none => s!"Real-time signal {signal - 34}"

/-- The number of a signal given by its number or its name in either case. -/
def number? (text : Raw) : Option Nat :=
  match Raw.nat? text with
  | some n => if n ≤ last then some n else none
  | none =>
      let wanted := String.ofList (text.map Char.toUpper)
      (List.range (last + 1)).find? fun n => name n = wanted && !(name n).toList.all Char.isDigit

/-- Whether a program that does not care about a signal ends on it. -/
def isFatal (signal : Nat) : Bool :=
  !([0, 17, 18, 19, 20, 21, 22, 23, 28].contains signal)

end ShaderLiterals.Programs.Signal
