/-!
# Key patterns

Patterns that select cache keys: `*` stands for any text, `?` for any one character and `[...]`
for one character of a class, `[!...]` for one outside it. A class is a list of characters and
ranges; a class that is never closed is an ordinary bracket.

A range whose ends are in the wrong order is taken out of its class before anything else is read, so
that a mark of negation may come to stand first. A class in which nothing is left admits no
character, and a mark of negation with nothing after it admits every one.

## Main statements

* `matches?_eq` — the tails of a key that match are found from the back, which takes a time in
  proportion to pattern and key; the answer is the one that trying every tail gives
-/

namespace ChainRelay.Text.KeyPattern

/-- One part of a pattern. -/
inductive Part where
  /-- Any text. -/
  | any
  /-- Any one character. -/
  | one
  /-- This character. -/
  | char (c : Char)
  /-- One character inside (or, if negated, outside) the ranges. -/
  | range (negated : Bool) (ranges : List (Char × Char))
  deriving Repr

/-! ### Classes -/

/-- The pieces of a class between the hyphens that make ranges. A hyphen makes one if at least
`skip` characters stand before it and something follows it; `done` is the piece so far, last
character first. -/
def pieces : Nat → List Char → List Char → List (List Char)
  | _, done, [] => [done.reverse]
  | 0, done, ['-'] => [('-' :: done).reverse]
  | 0, done, '-' :: rest => done.reverse :: pieces 2 [] rest
  | skip, done, c :: rest => pieces (skip - 1) (c :: done) rest

/-- Put a piece in front of others. A range between them that holds nothing is left out. -/
def join (piece : List Char) : List (List Char) → List (List Char)
  | [] => [piece]
  | next :: later =>
    match piece.getLast?, next with
    | some low, high :: rest =>
      if high < low then (piece.dropLast ++ rest) :: later else piece :: next :: later
    | _, _ => piece :: next :: later

/-- The characters and ranges of pieces with hyphens between them. A hyphen with nothing before it
stands for itself. -/
def rangesFrom (piece : List Char) : List (List Char) → List (Char × Char)
  | [] => piece.map fun c => (c, c)
  | next :: later =>
    match piece.getLast?, next with
    | some low, high :: rest =>
      piece.dropLast.map (fun c => (c, c)) ++ (low, high) :: rangesFrom rest later
    | _, _ => piece.map (fun c => (c, c)) ++ ('-', '-') :: rangesFrom next later

/-- The part that a class is. -/
def Part.ofClass (body : List Char) : Part :=
  let skip := if body.head? = some '!' then 2 else 1
  match (pieces skip [] body).foldr join [] with
  | [['!']] => .one
  | ('!' :: piece) :: later => .range true (rangesFrom piece later)
  | piece :: later => .range false (rangesFrom piece later)
  | [] => .range false []

/-- The contents of a class whose bracket has been opened, and what follows it. A closing bracket
that comes first belongs to the class. -/
def classBody (cs : List Char) : Option (List Char × List Char) :=
  let mark := cs.takeWhile (· = '!') |>.take 1
  let afterMark := cs.drop mark.length
  let first := afterMark.takeWhile (· = ']') |>.take 1
  let inside := (afterMark.drop first.length).takeWhile (· ≠ ']')
  match afterMark.drop (first.length + inside.length) with
  | _ :: rest => some (mark ++ first ++ inside, rest)
  | [] => none

/-- The parts of a pattern. -/
def parts : Nat → List Char → List Part
  | 0, _ => []
  | _ + 1, [] => []
  | fuel + 1, '*' :: rest => .any :: parts fuel rest
  | fuel + 1, '?' :: rest => .one :: parts fuel rest
  | fuel + 1, '[' :: rest =>
    match classBody rest with
    | some (body, rest) => .ofClass body :: parts fuel rest
    | none => .char '[' :: parts fuel rest
  | fuel + 1, c :: rest => .char c :: parts fuel rest

/-! ### Matching -/

/-- Whether a part that stands for one character stands for this one. -/
def Part.admits (part : Part) (c : Char) : Bool :=
  match part with
  | any => false
  | one => true
  | char a => a == c
  | range negated ranges =>
    (ranges.any fun r => decide (r.1 ≤ c) && decide (c ≤ r.2)) != negated

/-- Whether some tail of a text, the text itself included, passes. -/
def someTail (passes : List Char → Bool) : List Char → Bool
  | [] => passes []
  | c :: rest => passes (c :: rest) || someTail passes rest

/-- Whether parts match a whole text. -/
def matchParts : List Part → List Char → Bool
  | [], cs => cs.isEmpty
  | .any :: ps, cs => someTail (matchParts ps) cs
  | p :: ps, c :: cs => p.admits c && matchParts ps cs
  | _ :: _, [] => false

/-- For every tail, whether it or a shorter one passes. -/
def orLater : List Bool → List Bool
  | [] => []
  | b :: rest =>
    let later := orLater rest
    (b || later.head?.any id) :: later

/-- For every tail of a text, whether its first character is admitted and the next tail passes. -/
def ifAdmitted (p : Part) : List Char → List Bool → List Bool
  | c :: cs, _ :: passed => (p.admits c && passed.head?.any id) :: ifAdmitted p cs passed
  | _, _ => [false]

/-- For every tail of a text, the longest first, whether the parts match it. -/
def matchTails : List Part → List Char → List Bool
  | [], cs => cs.map (fun _ => false) ++ [true]
  | .any :: ps, cs => orLater (matchTails ps cs)
  | p :: ps, cs => ifAdmitted p cs (matchTails ps cs)

/-- Whether a pattern matches a key. -/
def matches? (pattern key : String) : Bool :=
  let cs := pattern.toList
  (matchTails (parts (cs.length + 1) cs) key.toList).head?.any id

theorem matchTails_nil (ps : List Part) : matchTails ps [] = [matchParts ps []] := by
  induction ps with
  | nil => rfl
  | cons p ps ih => cases p <;> simp [matchTails, matchParts, orLater, someTail, ifAdmitted, ih]

theorem head?_matchTails_of {ps : List Part}
    (h : ∀ c cs, matchTails ps (c :: cs) = matchParts ps (c :: cs) :: matchTails ps cs)
    (cs : List Char) : (matchTails ps cs).head? = some (matchParts ps cs) := by
  cases cs with
  | nil => simp [matchTails_nil]
  | cons c cs => simp [h]

theorem head?_orLater_of {ps : List Part}
    (h : ∀ c cs, matchTails ps (c :: cs) = matchParts ps (c :: cs) :: matchTails ps cs)
    (cs : List Char) :
    (orLater (matchTails ps cs)).head? = some (someTail (matchParts ps) cs) := by
  induction cs with
  | nil => simp [matchTails_nil, orLater, someTail]
  | cons c cs ih => simp [h, orLater, someTail, ih]

/-- The tails of a text that match are those of its rest, with the text itself in front. -/
theorem matchTails_cons (ps : List Part) (c : Char) (cs : List Char) :
    matchTails ps (c :: cs) = matchParts ps (c :: cs) :: matchTails ps cs := by
  induction ps generalizing c cs with
  | nil => rfl
  | cons p ps ih =>
    cases p with
    | any => simp [matchTails, matchParts, orLater, someTail, ih, head?_orLater_of ih cs]
    | one => simp [matchTails, matchParts, ifAdmitted, ih, head?_matchTails_of ih cs]
    | char a => simp [matchTails, matchParts, ifAdmitted, ih, head?_matchTails_of ih cs]
    | range negated ranges =>
      simp [matchTails, matchParts, ifAdmitted, ih, head?_matchTails_of ih cs]

/-- Finding the tails that match from the back answers like trying them one after the other. -/
theorem matches?_eq (pattern key : String) :
    matches? pattern key =
      matchParts (parts (pattern.toList.length + 1) pattern.toList) key.toList := by
  simp [matches?, head?_matchTails_of (matchTails_cons _)]

end ChainRelay.Text.KeyPattern
