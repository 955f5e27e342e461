/-
**The utilities of the machine.**

A utility does its work in a process of its own, which it ends.

Main definitions:

* `Utility.start` — begins the work of a utility in a process;
* `Utility.wants` — what has to be there before the work begins;
* `Host.become`, `Host.becomeWithin` — makes a process the program of a command.
-/
import BatchRunner.Machine.Utility.Blocks
import BatchRunner.Machine.Utility.Comparison
import BatchRunner.Machine.Utility.Dump
import BatchRunner.Machine.Utility.Edit
import BatchRunner.Machine.Utility.Files
import BatchRunner.Machine.Utility.Find
import BatchRunner.Machine.Utility.Interpreter
import BatchRunner.Machine.Utility.Items
import BatchRunner.Machine.Utility.Listing
import BatchRunner.Machine.Utility.Modes
import BatchRunner.Machine.Utility.Numbering
import BatchRunner.Machine.Utility.Numbers
import BatchRunner.Machine.Utility.Paths
import BatchRunner.Machine.Utility.Repeats
import BatchRunner.Machine.Utility.Search
import BatchRunner.Machine.Utility.Shapes
import BatchRunner.Machine.Utility.Sort
import BatchRunner.Machine.Utility.Times

set_option autoImplicit false

namespace BatchRunner

namespace Utility

def identity (w : Host) (p : Proc) (args : List String) : Host :=
  withArguments w p (flags "ugnrG") args fun g =>
    w.print p (Octets.bytes (if g.has 'u' || g.has 'g' || g.has 'G' then
      (if g.has 'n' then "root\n" else "0\n") else "uid=0(root) gid=0(root) groups=0(root)\n"))

/-- Says which directory a process is in. -/
def currentDir (w : Host) (p : Proc) (args : List String) : Host :=
  withArguments w p [⟨'L', "logical", .nothing⟩, ⟨'P', "physical", .nothing⟩] args fun g =>
    let w := if g.operands.isEmpty then w else grumble w p "ignoring non-option arguments"
    let logical := (g.lastOf? ['L', 'P']).any fun o => o.1 = 'L'
    if p.cwd.isGone then
      refuse w p "couldn't find directory entry in '..' with matching i-node" else
    w.print p (Octets.bytes ((if logical then Builtin.currentPath w.files p
      else Octets.pack (Place.path p.cwd)) ++ "\n"))

def printFormat (w : Host) (p : Proc) (args : List String) : Host :=
  match if args.head? = some "--" then args.tail else args with
  | [] => misuse w p "missing operand"
  | format :: args =>
      let r := Printing.formatted .utility shownWord format args
      let status := if r.complaints.all fun text => text.startsWith "warning: " then 0 else 1
      showInTurn (p.withStatus status) r.pieces w

/-- What a utility says about words that are no condition. -/
def conditionFault (words : List String) (text : String) : String :=
  let numeral := "Illegal number: "
  let missing := ": argument expected"
  if text.startsWith numeral then
    "invalid integer " ++ inQuotes (String.ofList (text.toList.drop numeral.length))
  else if text.endsWith missing then
    "missing argument after " ++ inQuotes (String.ofList (text.toList.take
      (text.length - missing.length)))
  else
    match words with
    | [a, b] => if a.startsWith "-" && a.length = 2 then inQuotes a ++ ": unary operator expected"
        else "missing argument after " ++ inQuotes b
    | [_, b, _] => inQuotes b ++ ": binary operator expected"
    | words => "extra argument " ++ inQuotes (words.getLastD "")

/-- Tells whether a condition holds. -/
def judge (w : Host) (p : Proc) (words : List String) : Host :=
  match Condition.holds (Builtin.scene w p) words with
  | .ok b => w.settle p (if b then 0 else 1)
  | .error text => (grumble w p (conditionFault words text)).settle p 2

/-- **Begins the work of a utility in a process.**  Once the work is done the process ends. -/
def start (w : Host) (p : Proc) (name : String) (argv : List String) : Host :=
  let p := { p with tasks := [.finish] }
  let args := argv.tail
  match name with
  | "[" =>
      if args.getLast? = some "]" then judge w p args.dropLast
      else (grumble w p "missing ']'").settle p 2
  | "base64" => base64 w p args
  | "basename" => baseName w p args
  | "cat" => cat w p args
  | "chmod" => changeMode w p args
  | "cmp" => compareFiles w p args
  | "comm" => compareSorted w p args
  | "cp" => copy w p args
  | "cut" => cut w p args
  | "dash" => shell w p argv
  | "dd" => copyBlocks w p args
  | "dirname" => dirName w p args
  | "echo" => echo w p args
  | "env" => env w p args
  | "expr" => calculate w p args
  | "find" => find w p args
  | "fold" => fold w p args
  | "grep" => search w p args
  | "head" => parts w p true args
  | "id" => identity w p args
  | "link" => linkOne w p args
  | "ln" => link w p args
  | "ls" => list w p args
  | "mkdir" => mkdir w p args
  | "mv" => move w p args
  | "nice" => unhurried w p args
  | "nl" => numberLines w p args
  | "nohup" => unhung w p args
  | "od" => dump w p args
  | "paste" => paste w p args
  | "printenv" => printEnv w p args
  | "printf" => printFormat w p args
  | "pwd" => currentDir w p args
  | "readlink" => readLink w p args
  | "realpath" => realPaths w p args
  | "rev" => reversed w p args
  | "rm" => rm w p args
  | "rmdir" => rmdir w p args
  | "sed" => edit w p args
  | "seq" => range w p args
  | "setsid" => apart w p args
  | "sh" => shell w p argv
  | "sleep" => sleep w p args
  | "sort" => sort w p args
  | "sync" => w.settle p 0
  | "tac" => backwards w p args
  | "tail" => parts w p false args
  | "tee" => tee w p args
  | "test" => judge w p args
  | "timeout" => limited w p args
  | "touch" => touch w p args
  | "tr" => replace w p args
  | "truncate" => truncate w p args
  | "tty" => w.write (p.withStatus 1) (Octets.bytes "not a tty\n")
  | "uname" => w.print p (Octets.bytes "Linux\n")
  | "uniq" => unique w p args
  | "unlink" => unlinkOne w p args
  | "wc" => count w p args
  | "which" => which w p args
  | "whoami" => w.print p (Octets.bytes "root\n")
  | "xargs" => forItems w p args
  | "yes" => repeatLine w p argv
  | name =>
      (Builtin.run? w p ⟨1, name, args, false, true⟩).getD (w.settle p 127)

/-- What has to be there before a utility begins its work. -/
inductive Want where
  | nothing
  | lines (n : Nat)
  | bytes (n : Nat)
  /-- All of standard input, or as much of it as passes a test. -/
  | passing (enough : Bytes → Bool)
  | all

/-- The utilities that read all of standard input if no file is named, with the options they have
and how their arguments are written. -/
def readers : List (String × List Opt × (List String → List String)) :=
  [("base64", base64Options, id), ("cut", cutOptions, id), ("fold", foldOptions, withWidth),
    ("nl", numberingOptions, id), ("od", dumpOptions, id), ("paste", pasteOptions, id),
    ("rev", [], id), ("sort", sortOptions, id), ("tac", backwardsOptions, id),
    ("tail", portionOptions, withCount false), ("uniq", uniqueOptions, withSkips),
    ("wc", countOptions, id)]

/-- The utilities that read all of standard input. -/
def alwaysReaders : List String := ["tee", "tr"]

/-- How many answers a utility may need. -/
def answersMax : Nat := 1000

/-- Whether a utility that reads files is to read standard input. -/
def readsInput (opts : List Opt) (args : List String) : Bool :=
  match parse opts true args with
  | .ok g => g.operands.isEmpty || g.operands.any isInput
  | .error _ => false

/-- **What has to be there before a utility begins its work.** -/
def wants (w : Host) (p : Proc) (name : String) (argv : List String) : Want :=
  if alwaysReaders.contains name then .all
  else
    match readers.lookup name with
    | some (opts, tidy) => if readsInput opts (tidy argv.tail) then .all else .nothing
    | none => other
where
  /-- What the other utilities need. -/
  other : Want :=
    match name with
    | "head" =>
        match parse portionOptions true (withCount true argv.tail) with
        | .ok g =>
            match g.operands.isEmpty || g.operands.any isInput, portion true g with
            | true, .ok (.first n, true) => .bytes n
            | true, .ok (.first n, false) => .lines n
            | true, .ok _ => .all
            | _, _ => .nothing
        | .error _ => .nothing
    | "grep" =>
        if searchReads argv.tail then .passing (searchDone argv.tail) else .nothing
    | "sed" => if editReads argv.tail then .passing (editDone w p argv.tail) else .nothing
    | "cmp" => if argv.tail.any isInput then .all else .nothing
    | "comm" => if argv.tail.any isInput then .all else .nothing
    | "xargs" =>
        match parse itemOptions false argv.tail with
        | .ok g => if (g.value? 'a').all isInput then .all else .nothing
        | .error _ => .nothing
    | "find" => if findAsks argv.tail then .all else .nothing
    | "dd" => if argv.tail.any fun a => a.startsWith "if=" then .nothing else .all
    | "cp" => if asking copyOptions then .lines answersMax else .nothing
    | "ln" => if asking linkOptions then .lines answersMax else .nothing
    | "mv" => if asking moveOptions then .lines answersMax else .nothing
    | "rm" => if asking removeOptions then .lines answersMax else .nothing
    | "sh" => script
    | "dash" => script
    | _ => .nothing
  /-- Whether a utility asks questions. -/
  asking (opts : List Opt) : Bool :=
    match parse opts true argv.tail with
    | .ok g => g.has 'i' || g.has 'I' || g.has 'ι'
    | .error _ => false
  /-- A script that no argument names is read. -/
  script : Want :=
    match invocation argv.tail ⟨Shell.fresh [] 0 "" [], false, false, [], ""⟩ with
    | .ok i =>
        if !i.given && (i.read || i.args.isEmpty || i.args.head?.any isInput) then .all
        else .nothing
    | .error _ => .nothing

end Utility

namespace Host

/-- Makes a process do the work of a utility.  Of what a script was, only its environment is kept,
and what is done about signals is nothing or what is always done. -/
def load (w : Host) (p : Proc) (found : Program.Found) : Host :=
  w.setProc { p with
    shell := Shell.fresh p.shell.environment p.id (found.argv.headD found.utility) []
    pending := []
    image := some found.file
    tasks := [.utility found.utility found.argv] }

/-- **Makes a process the program of a command that is launched.**  Its work is still to be done. -/
def become (w : Host) (p : Proc) (argv : List String) : Except Errno Host :=
  (Program.resolve w.library p.cwd (p.shell.environment.lookup "PATH") argv).map (w.load p)

/-- **Makes a process the program of a command of a script.** -/
def becomeWithin (w : Host) (p : Proc) (search : String) (argv : List String) :
    Except Program.Refusal Host :=
  (Program.resolveWithin w.library p.cwd search argv).map (w.load p)

end Host

end BatchRunner
