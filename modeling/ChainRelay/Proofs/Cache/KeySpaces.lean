import ChainRelay.Broadcast.Queue
import ChainRelay.Proofs.Cache.Entries
import ChainRelay.World.Lock

/-!
# Spaces of keys

Keys that belong together begin with the same text and a colon, and a scan for that text with a
star after the colon finds them. The star stands for any text whatsoever, so that it does not matter
what follows.

## Main definitions

* `Text.KeyPattern.IsPlain` — texts that stand for themselves in a pattern
* `BroadcastQueue.listed` — the keys that the queue of pending broadcasts lists

## Main results

* `Text.KeyPattern.matches?_space_iff` — the keys that match are those of the space
* `Cache.mem_scan_iff` — a scan lists what matches and has not expired
* `BroadcastQueue.keyOf_mem_listed_iff` — each pending broadcast is listed
* `BroadcastQueue.lockKey_not_mem_listed` — no lock is
-/

namespace ChainRelay

namespace Text.KeyPattern

/-! ### Patterns of spaces -/

/-- Texts in which no character stands for anything but itself. -/
def IsPlain (s : String) : Prop := ∀ c ∈ s.toList, c ≠ '*' ∧ c ≠ '?' ∧ c ≠ '['

instance (s : String) : Decidable (IsPlain s) := List.decidableBAll _ _

/-- Plain characters are parts of their own. -/
theorem parts_append {plain : List Char} (h : ∀ c ∈ plain, c ≠ '*' ∧ c ≠ '?' ∧ c ≠ '[')
    (fuel : ℕ) (rest : List Char) :
    parts (plain.length + fuel) (plain ++ rest) = plain.map Part.char ++ parts fuel rest := by
  induction plain with
  | nil => rw [List.length_nil, Nat.zero_add, List.nil_append, List.map_nil, List.nil_append]
  | cons c plain ih =>
    obtain ⟨hany, hone, hclass⟩ := h c List.mem_cons_self
    have hfuel : (c :: plain).length + fuel = (plain.length + fuel) + 1 := by
      rw [List.length_cons]
      omega
    rw [hfuel, List.cons_append, parts, ih fun c' hc' => h c' (List.mem_cons_of_mem _ hc')]
    · rfl
    · exact hany
    · exact hone
    · exact hclass

/-- Any text matches a star. -/
theorem matchParts_any (cs : List Char) : matchParts [.any] cs = true := by
  change someTail (matchParts []) cs = true
  induction cs with
  | nil => rfl
  | cons c cs ih => rw [someTail, ih, Bool.or_true]

/-- Characters with a star after them match what begins with them. -/
theorem matchParts_chars_iff (chars cs : List Char) :
    matchParts (chars.map Part.char ++ [.any]) cs = true ↔ chars <+: cs := by
  induction chars generalizing cs with
  | nil => simp [matchParts_any]
  | cons c chars ih =>
    cases cs with
    | nil => simp [matchParts]
    | cons d cs => simp [matchParts, Part.admits, ih, List.cons_prefix_cons]

/-- **The keys that match the pattern of a space** are those that begin with its text and a colon,
whatever follows. -/
theorem matches?_space_iff {space : String} (h : IsPlain space) (key : String) :
    matches? (space ++ ":*") key = true ↔ (space ++ ":").toList <+: key.toList := by
  have hplain : ∀ c ∈ (space ++ ":").toList, c ≠ '*' ∧ c ≠ '?' ∧ c ≠ '[' := by
    intro c hc
    rcases List.mem_append.mp (String.toList_append ▸ hc) with hc | hc
    · exact h c hc
    · rw [List.mem_singleton.mp hc]
      decide
  have hpattern : (space ++ ":*").toList = (space ++ ":").toList ++ ['*'] := by simp
  have hparts : parts ((space ++ ":*").toList.length + 1) (space ++ ":*").toList =
      (space ++ ":").toList.map Part.char ++ [.any] := by
    rw [hpattern, List.length_append]
    exact parts_append hplain 2 ['*']
  rw [matches?_eq, hparts, matchParts_chars_iff]

end Text.KeyPattern

/-! ### Scans -/

namespace Cache

variable {τ : Type} [Seconds τ] {c : Cache τ}

/-- **A scan lists what matches and has not expired.** -/
theorem mem_scan_iff (h : c.Keyed) (now : τ) (pattern key : String) :
    key ∈ (c.scan now pattern).1 ↔
      c.live? now key ≠ none ∧ Text.KeyPattern.matches? pattern key = true := by
  have hlive : (c.entries.filter fun e => !expired now e.2).lookup key = c.live? now key :=
    lookup_filter (fun e => !expired now e) h key
  have hmem (entries : List (String × CacheEntry τ)) :
      key ∈ entries.map Prod.fst ↔ entries.lookup key ≠ none := by
    rw [← Option.isSome_iff_ne_none, List.lookup_isSome_iff, List.mem_map]
    exact exists_congr fun e => and_congr_right fun _ => by rw [beq_iff_eq, eq_comm]
  rw [← hlive, ← hmem]
  exact List.mem_filter

/-- A scan lists each key once. -/
theorem nodup_scan (h : c.Keyed) (now : τ) (pattern : String) : (c.scan now pattern).1.Nodup :=
  (keyed_filter h _).filter _

theorem mem_scan_space_iff (h : c.Keyed) {space : String} (hplain : Text.KeyPattern.IsPlain space)
    (now : τ) (key : String) : key ∈ (c.scan now (space ++ ":*")).1 ↔
      c.live? now key ≠ none ∧ (space ++ ":").toList <+: key.toList := by
  rw [mem_scan_iff h, Text.KeyPattern.matches?_space_iff hplain]

end Cache

/-! ### Pending broadcasts -/

namespace BroadcastQueue

variable {σ τ : Type} [Seconds τ] {q : BroadcastQueue} {w : World σ τ}

/-- The keys that the queue of pending broadcasts lists in a world. -/
def listed (q : BroadcastQueue) (w : World σ τ) : List String :=
  (w.cache.scan w.monoNow (q.space ++ ":*")).1

theorem keys_apply (q : BroadcastQueue) (w : World σ τ) : q.keys w =
    (.ok (q.listed w), { w with cache := (w.cache.scan w.monoNow (q.space ++ ":*")).2 }) :=
  rfl

theorem space_starts_keyOf (q : BroadcastQueue) (id : String) :
    (q.space ++ ":").toList <+: (q.keyOf id).toList := by
  have hchars : (q.keyOf id).toList = (q.space ++ ":").toList ++ id.toList := String.toList_append
  rw [hchars]
  exact List.prefix_append _ _

/-- A key of a pending broadcast is listed until it expires. -/
theorem keyOf_mem_listed_iff (h : w.cache.Keyed) (hplain : Text.KeyPattern.IsPlain q.space)
    (id : String) : q.keyOf id ∈ q.listed w ↔ w.cache.live? w.monoNow (q.keyOf id) ≠ none := by
  rw [listed, Cache.mem_scan_space_iff h hplain, and_iff_left (q.space_starts_keyOf id)]

/-- No lock is listed by a queue whose space does not begin with the word for locks. -/
theorem lockKey_not_mem_listed (h : w.cache.Keyed) (hplain : Text.KeyPattern.IsPlain q.space)
    (hspace : ¬ "lock".toList <+: q.space.toList) (name : String) :
    Work.lockKey name ∉ q.listed w := by
  intro hmem
  have hstart := ((Cache.mem_scan_space_iff h hplain _ _).mp hmem).2
  rw [Work.lockKey, String.toList_append, String.toList_append] at hstart
  have hlock : "lock".toList <+: "lock:".toList ++ name.toList :=
    (by decide : "lock".toList <+: "lock:".toList).trans (List.prefix_append _ _)
  have hcolon : ':' ∉ "lock".toList := by decide
  -- whichever is the longer one, a colon would stand in the word for locks
  rcases List.prefix_or_prefix_of_prefix hlock hstart with hlonger | hshorter
  · rcases List.prefix_concat_iff.mp hlonger with heq | hbegins
    · exact hcolon (heq ▸ List.mem_append_right _ (List.mem_singleton_self _))
    · exact hspace hbegins
  · exact hcolon (hshorter.subset (List.mem_append_right _ (List.mem_singleton_self _)))

end BroadcastQueue

end ChainRelay
