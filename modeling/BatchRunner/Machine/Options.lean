/-
**The options of a script.**

An option is on or off.  It has a name, and most options have a letter as well.

Main definitions:

* `Options.names` — the options there are;
* `Options.turn` — turns an option on or off;
* `Options.turnAll` — turns options on or off by their letters;
* `Options.ofArguments` — the options at the head of arguments.
-/
import BatchRunner.Machine.Expansion

set_option autoImplicit false

namespace BatchRunner.Options

/-- The options by letter and name, in the order in which they are shown.  The last two have no
letter, and a control character stands for it. -/
def names : List (Char × String) :=
  [('e', "errexit"), ('f', "noglob"), ('I', "ignoreeof"), ('i', "interactive"), ('m', "monitor"),
    ('n', "noexec"), ('s', "stdin"), ('x', "xtrace"), ('v', "verbose"), ('V', "vi"),
    ('E', "emacs"), ('C', "noclobber"), ('a', "allexport"), ('b', "notify"), ('u', "nounset"),
    ('p', "privileged"), ('\x01', "nolog"), ('\x02', "debug")]

def turn (on : Bool) (s : Shell) (letter : Char) : Shell :=
  { s with options := (names.reverse.map Prod.fst).filter fun o =>
      if o = letter then on else s.has o }

/-- Turns an option on or off by its letter.  Of the two manners of editing a line one at most is
chosen in this way. -/
def turnLetter (on : Bool) (s : Shell) (letter : Char) : Shell :=
  let s := turn on s letter
  match on, letter with
  | true, 'V' => turn false s 'E'
  | true, 'E' => turn false s 'V'
  | _, _ => s

/-- What is shown of all options: what they are, or how they can be set again. -/
def listing (plain : Bool) (isOn : Char → Bool) : String :=
  if plain then
    "Current option settings\n" ++ String.join (names.map fun o =>
      o.2 ++ String.ofList (List.replicate (16 - o.2.length) ' ')
        ++ (if isOn o.1 then "on\n" else "off\n"))
  else
    String.join (names.map fun o =>
      "set " ++ (if isOn o.1 then "-o " else "+o ") ++ o.2 ++ "\n")

/-- What is said about a letter or a name that stands for no option. -/
def unknown (text : String) : String := "Illegal option -" ++ text

/-- Turns options on or off by their letters, and gives what is to be shown.  The letter `o` wants
a name; without one all options are shown.  Before a script begins those that nothing has been said
about are shown as on. -/
def turnAll (on begins : Bool) (name? : Option String) :
    List Char → Shell → Except String (Shell × String)
  | [], s => .ok (s, "")
  | 'o' :: cs, s =>
      match name? with
      | none => do
          let (s, text) ← turnAll on begins name? cs s
          return (s, listing on (fun o => begins || s.has o) ++ text)
      | some name =>
          match names.find? fun o => o.2 = name with
          | some (letter, _) => turnAll on begins name? cs (turn on s letter)
          | none => .error (unknown ("o " ++ name))
  | c :: cs, s =>
      if names.any fun o => o.1 = c then turnAll on begins name? cs (turnLetter on s c)
      else .error (unknown (String.singleton c))

/-- What options ask for. -/
structure Request where
  shell : Shell
  /-- What is to be shown. -/
  text : String
  /-- The arguments behind the options, if there are any or if two dashes say so. -/
  args : Option (List String)

/-- The options at the head of arguments, with what has been shown of them. -/
def ofArguments : List String → Shell → String → Except String Request
  | [], s, text => .ok ⟨s, text, none⟩
  | a :: as, s, text =>
      match a.toList with
      | ['-'] =>
          .ok ⟨turn false (turn false s 'x') 'v', text, if as.isEmpty then none else some as⟩
      | ['-', '-'] => .ok ⟨s, text, some as⟩
      | '-' :: cs => do
          let (s, more) ← turnAll true false as.head? cs s
          ofArguments (if cs.contains 'o' then as.tail else as) s (text ++ more)
      | '+' :: cs => do
          let (s, more) ← turnAll false false as.head? cs s
          ofArguments (if cs.contains 'o' then as.tail else as) s (text ++ more)
      | _ => .ok ⟨s, text, some (a :: as)⟩
termination_by as => as.length
decreasing_by
  all_goals
    simp only [List.length_cons]
    split
    · simp only [List.length_tail]
      omega
    · omega

/-- What is said where jobs cannot be controlled, for want of a terminal. -/
def withoutTerminal : String := "can't access tty; job control turned off"

end BatchRunner.Options
