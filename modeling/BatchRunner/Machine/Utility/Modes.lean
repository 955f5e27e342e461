/-
**The utility that sets permission bits.**

Main definitions:

* `Utility.changeMode` — the utility.
-/
import BatchRunner.Files.Facts
import BatchRunner.Machine.Mode
import BatchRunner.Machine.Utility.Progress

set_option autoImplicit false

namespace BatchRunner.Utility

def modeOptions : List Opt :=
  [⟨'R', "recursive", .nothing⟩, ⟨'f', "silent", .nothing⟩, ⟨'f', "quiet", .nothing⟩,
    ⟨'v', "verbose", .nothing⟩, ⟨'c', "changes", .nothing⟩, ⟨'=', "reference", .value⟩,
    ⟨'/', "preserve-root", .nothing⟩, ⟨'/', "no-preserve-root", .nothing⟩]

/-- Permission bits in digits and letters. -/
def modeShown (mode : Nat) : String :=
  let ds := Nat.toDigits 8 mode
  String.ofList (List.replicate (4 - ds.length) '0' ++ ds) ++ " (" ++ FileTree.modeText mode ++ ")"

/-- How the permission bits of a path are changed. -/
structure ModeChange where
  options : Given
  clauses : List Mode.Clause
  /-- Whether it is a mistake if the mask keeps bits from being changed. -/
  strict : Bool

/-- Sets the permission bits of one path. -/
def ModeChange.one (c : ModeChange) (p : Proc) (s : Progress) (a : String) : Progress :=
  let g := c.options
  let path := Octets.unpack a
  match s.files.stat p.cwd path with
  | .error e =>
      let text := match s.files.locate p.cwd .entry path with
        | .ok (.node _ (.link _)) => "cannot operate on dangling symlink " ++ inQuotes a
        | _ => "cannot access " ++ inQuotes a ++ ": " ++ reason e
      (if g.has 'f' then s.failing else s.complain p text).note (g.has 'v')
        (inQuotes a ++ " could not be accessed")
  | .ok (place, x) =>
      let before := (s.files.factsOf place x).mode
      let after := Mode.apply p.mask x.isDir before c.clauses
      let expected := Mode.apply 0 x.isDir before c.clauses
      let s := s.withFiles ((s.files.setMode p.cwd path after).toOption.getD s.files)
      let s := if before = after then
          s.note (g.has 'v') ("mode of " ++ inQuotes a ++ " retained as " ++ modeShown after)
        else
          s.note (g.has 'v' || g.has 'c') ("mode of " ++ inQuotes a ++ " changed from "
            ++ modeShown before ++ " to " ++ modeShown after)
      if c.strict && unmasked after expected ≠ 0 then
        s.complain p (shown a ++ ": new permissions are " ++ FileTree.modeText after ++ ", not "
          ++ FileTree.modeText expected)
      else s

/-- The paths below a path, which comes first. -/
def pathsBelow (t : FileTree) (cwd : Place) (a : String) : List String :=
  match t.found? cwd (Octets.unpack a) with
  | some x => a :: ((Node.listing x).filter fun e => match e.2 with
      | .link _ => false
      | _ => true).map fun e => Path.join a (Octets.pack e.1)
  | none => [a]

/-- **Sets the permission bits of files.**  An argument that is a mode and begins with a dash is no
option. -/
def changeMode (w : Host) (p : Proc) (args : List String) : Host :=
  let isMode (a : String) : Bool := a.startsWith "-" && (Mode.clauses? a).isSome
  let opening := args.takeWhile (· ≠ "--")
  let behind := (args.drop opening.length).drop 1
  let options := opening.filter fun a => a.startsWith "-" && !isMode a && 1 < a.length
  let others := opening.filter fun a => !options.contains a
  let (dashed, plain) := others.partition isMode
  match parse modeOptions true options with
  | .error text => misuse w p text
  | .ok g =>
      let operands := plain ++ behind
      let modes : Except String (List Mode.Clause × Bool × List String) :=
        match g.value? '=', dashed with
        | some r, _ =>
            match w.files.facts? p.cwd (Octets.unpack r) with
            | some f => .ok ([⟨0o7777, '=', .bits f.mode⟩], false, operands)
            | none => .error ("failed to get attributes of " ++ inQuotes r ++ ": "
                ++ Errno.noEntry.text)
        | none, [] =>
            match operands with
            | [] => .ok ([], false, [])
            | m :: paths =>
                match Mode.clauses? m with
                | some cs => .ok (cs, false, if paths.isEmpty then [] else paths)
                | none => .error ""
        | none, ms => .ok (ms.flatMap fun m => (Mode.clauses? m).getD [], true, operands)
      match modes, operands, dashed, g.value? '=' with
      | .ok (_, _, []), [], [], _ => misuse w p "missing operand"
      | _, [m], [], none => misuse w p ("missing operand after " ++ inQuotes m)
      | .ok (_, _, []), _, m :: _, _ => misuse w p ("missing operand after " ++ inQuotes m)
      | .ok (_, _, []), _, _, _ => misuse w p "missing operand"
      | .error "", m :: _, _, _ => misuse w p ("invalid mode: " ++ inQuotes m)
      | .error text, _, _, _ => refuse w p text
      | .ok (cs, strict, paths), _, _, _ =>
          let all := if g.has 'R' then paths.flatMap (pathsBelow w.files p.cwd) else paths
          let change : ModeChange := ⟨g, cs, strict⟩
          ((Progress.start w).through all (change.one p)).finish p

end BatchRunner.Utility
