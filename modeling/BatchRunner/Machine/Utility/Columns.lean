/-
**Words in columns.**

Words are laid out in as many columns as fit a line, downwards or across, or one behind the other
with commas between them.

Main definitions:

* `Columns.fitting` — how wide the columns are, as many of them as fit;
* `Columns.downwards`, `Columns.across`, `Columns.withCommas` — words laid out.
-/

set_option autoImplicit false

namespace BatchRunner.Columns

/-- How words are laid out. -/
structure Page where
  /-- How long a line may be; it may be as long as it likes if that is zero. -/
  width : Nat
  /-- The distance of tab stops, or zero if there are none. -/
  tab : Nat
  deriving DecidableEq, Repr

def leastWidth : Nat := 3

def gap : Nat := 2

def columnOf (down : Bool) (count columns place : Nat) : Nat :=
  if down then place / ((count + columns - 1) / columns) else place % columns

/-- Whether so many columns of the least width, made wider where a word needs it, fit a line.  Only
where a column is made wider is that looked at. -/
def fits (page : Page) (columns : Nat) (ws : List Nat) : Bool :=
  ws.all (· = leastWidth) || ws.foldl (· + ·) 0 < page.width || columns = 1

def widths (down : Bool) (columns : Nat) (lengths : List Nat) : List Nat :=
  (List.range columns).map fun c =>
    (lengths.zipIdx.filter fun x => columnOf down lengths.length columns x.2 = c).foldl
      (fun most x => max most (x.1 + if c + 1 = columns then 0 else gap)) leastWidth

/-- **The widths of as many columns as fit a line.** -/
def fitting (page : Page) (down : Bool) (lengths : List Nat) : List Nat :=
  let most := min lengths.length ((page.width + leastWidth - 1) / leastWidth)
  (((List.range most).reverse.map fun n => widths down (n + 1) lengths).find? fun ws =>
    fits page ws.length ws).getD (widths down 1 lengths)

/-- Blanks and tabs that lead from one column of characters to another. -/
def indent (tab : Nat) : Nat → Nat → Nat → List Char
  | 0, _, _ => []
  | fuel + 1, from', to' =>
      if to' ≤ from' then []
      else if tab ≠ 0 && (from' + 1) / tab < to' / tab then
        '\t' :: indent tab fuel (from' + tab - from' % tab) to'
      else ' ' :: indent tab fuel (from' + 1) to'

def line (page : Page) : Nat → List Nat → List String → String
  | _, _, [] => "\n"
  | _, _, [w] => w ++ "\n"
  | start, ws, w :: rest =>
      let to' := start + ws.headD 0
      w ++ String.ofList (indent page.tab to' (start + w.length) to') ++ line page to' ws.tail rest

def pieces {α : Type} (n : Nat) : Nat → List α → List (List α)
  | 0, _ => []
  | _, [] => []
  | fuel + 1, l => l.take n :: pieces n fuel (l.drop n)

def inARow (words : List String) : String := "  ".intercalate words ++ "\n"

/-- **Words in columns, one row after the other.** -/
def across (page : Page) (words : List String) : String :=
  if page.width = 0 then inARow words else
  let ws := fitting page false (words.map String.length)
  String.join ((pieces ws.length words.length words).map (line page 0 ws))

/-- **Words in columns, one column after the other.** -/
def downwards (page : Page) (words : List String) : String :=
  if page.width = 0 then inARow words else
  let ws := fitting page true (words.map String.length)
  let rows := (words.length + ws.length - 1) / ws.length
  String.join ((List.range rows).map fun r =>
    line page 0 ws ((words.zipIdx.filter fun x => x.2 % rows = r).map Prod.fst))

/-- Words behind a first one, with commas between them. -/
def afterComma (page : Page) : Nat → List String → String
  | _, [] => "\n"
  | place, w :: rest =>
      let n := w.length
      if page.width = 0 || place + n + 2 < page.width then
        ", " ++ w ++ afterComma page (place + n + 2) rest
      else ",\n" ++ w ++ afterComma page n rest

/-- **Words with commas between them.** -/
def withCommas (page : Page) : List String → String
  | [] => ""
  | w :: rest => w ++ afterComma page w.length rest

end BatchRunner.Columns
