import LogQuery.Proofs.Outcome
import LogQuery.Proofs.Wildcard.Expression
import LogQuery.Regex.Expr.OfPattern
import LogQuery.Wildcard.Spelling

/-!
# How written wildcards are read

`Spells` says that a piece of a written pattern is read as a row of expressions, whatever stands
around it.  Written pieces can be put together, and a whole pattern is then read as an expression
that matches what the row matches.  No piece begins with a question mark, which would make a
repetition in front of it lazy.
-/

namespace LogQuery.Wildcard

open LogQuery.Regex LogQuery.Regex.Reader

/-- From one state in front of a text, reading comes to another one in front of its rest. -/
def ComesTo (state : State) (text : List Char) (next : State) (rest : List Char) : Prop :=
  ∀ fuel, text.length < fuel →
    ∃ left, rest.length < left ∧ readFuel fuel state text = readFuel left next rest

namespace ComesTo

variable {state next last : State} {text rest left : List Char}

theorem refl (state : State) (text : List Char) : ComesTo state text state text :=
  fun fuel enough => ⟨fuel, enough, rfl⟩

theorem trans (first : ComesTo state text next rest) (second : ComesTo next rest last left) :
    ComesTo state text last left := by
  intro fuel enough
  obtain ⟨fuel, enough, read_eq⟩ := first fuel enough
  obtain ⟨fuel, enough, read_eq'⟩ := second fuel enough
  exact ⟨fuel, enough, read_eq.trans read_eq'⟩

/-- Every step of reading consumes at least one character. -/
theorem of_steps (count : Nat) (shorter : rest.length + count ≤ text.length)
    (steps : ∀ fuel, readFuel (fuel + count) state text = readFuel fuel next rest) :
    ComesTo state text next rest := by
  intro fuel enough
  obtain ⟨left, rfl⟩ := Nat.exists_eq_add_of_le' (show count ≤ fuel by omega)
  exact ⟨left, by omega, steps left⟩

end ComesTo

theorem skipSpace_false (text : List Char) : skipSpace false text = text := by
  unfold skipSpace
  cases text.length with
  | zero => rfl
  | succ fuel => rfl

variable {state next : State} {rest : List Char}

section Steps

variable (plain : state.spaced = false)

include plain

theorem comesTo_dot : ComesTo state ('.' :: rest) (state.push ⟨.dot, 0⟩) rest := by
  cases state
  cases plain
  exact .of_steps 1 le_rfl fun _ => rfl

theorem comesTo_assertion {c : Char} {kind : Assertion}
    (written : c = '^' ∧ kind = .caret ∨ c = '$' ∧ kind = .dollar) :
    ComesTo state (c :: rest) (state.push ⟨.assertion kind, 0⟩) rest := by
  cases state
  cases plain
  rcases written with ⟨rfl, rfl⟩ | ⟨rfl, rfl⟩
  · exact .of_steps 1 le_rfl fun _ => rfl
  · exact .of_steps 1 le_rfl fun _ => rfl

/-- A star without a question mark behind it repeats as often as possible. -/
theorem comesTo_star (greedy : rest.head? ≠ some '?')
    (repeated : state.repeatLast 0 none true = .ok next) :
    ComesTo state ('*' :: rest) next rest := by
  refine .of_steps 1 le_rfl fun fuel => ?_
  have readGreedy_eq : readGreedy rest = (true, rest) := by
    unfold readGreedy
    split
    · exact absurd rfl greedy
    · rfl
  have unfolded : readFuel (fuel + 1) state ('*' :: rest) =
      (state.repeatLast 0 none (readGreedy rest).1 >>= fun next =>
        readFuel fuel next (readGreedy rest).2) := by
    cases state
    cases plain
    rfl
  rw [unfolded, readGreedy_eq, repeated]
  rfl

/-- A boundary of a fragment is read as a group of its own. -/
theorem comesTo_boundary {c : Char} {kind : Assertion}
    (written : c = '^' ∧ kind = .caret ∨ c = '$' ∧ kind = .dollar) :
    ComesTo state ('(' :: c :: '|' :: '\\' :: 'W' :: ')' :: rest)
      { state with
        items := ⟨.group (.numbered state.nextIndex)
            (.alternation (.assertion kind) (.perl .word true)), 2⟩ :: state.items
        nextIndex := state.nextIndex + 1 } rest := by
  cases state
  cases plain
  rcases written with ⟨rfl, rfl⟩ | ⟨rfl, rfl⟩
  · exact .of_steps 5 (by simp) fun _ => rfl
  · exact .of_steps 5 (by simp) fun _ => rfl

/-- The characters of one part of a path are read as a class. -/
theorem comesTo_withinPart :
    ComesTo state ('[' :: '^' :: '/' :: '\\' :: '\\' :: ']' :: rest)
      (state.push ⟨.bracketed true (.union (.literal '/') (.literal '\\')), 2⟩) rest := by
  cases state
  cases plain
  exact .of_steps 1 (by simp) fun _ => rfl

/-- The flag of a fragment holds from here on. -/
theorem comesTo_caseInsensitive :
    ComesTo state ('(' :: '?' :: 'i' :: ')' :: rest)
      (state.push ⟨.flags [(.caseInsensitive, true)], 0⟩) rest := by
  cases state
  cases plain
  exact .of_steps 1 (by simp) fun _ => rfl

end Steps

theorem mem_of_isMeta {c : Char} (special : isMeta c = true) :
    c ∈ ['\\', '.', '+', '*', '?', '(', ')', '|', '[', ']', '\x7b', '\x7d', '^', '$', '#', '&',
      '-', '~'] :=
  of_decide_eq_true special

/-- A character with a meaning of its own is escaped, and every other one has none. -/
theorem comesTo_escape (plain : state.spaced = false) (c : Char) :
    ComesTo state (escape c ++ rest) (state.push ⟨.literal c false, 0⟩) rest := by
  rw [escape]
  split
  · next special =>
      refine .of_steps 1 (by simp) fun fuel => ?_
      have readEscape_eq : readEscape false (c :: rest) = .ok (.literal c false, rest) := by
        -- No letter or digit is among them, so none of these escapes means a class.
        have listed := mem_of_isMeta special
        simp only [List.mem_cons, List.not_mem_nil, or_false] at listed
        rcases listed with rfl | rfl | rfl | rfl | rfl | rfl | rfl | rfl | rfl | rfl | rfl | rfl |
          rfl | rfl | rfl | rfl | rfl | rfl <;> rfl
      cases state
      cases plain
      change (readEscape false (c :: rest) >>= _) = _
      rw [readEscape_eq]
      rfl
  · next ordinary =>
      refine .of_steps 1 le_rfl fun fuel => ?_
      rw [readFuel, plain, List.singleton_append, skipSpace_false]
      split
      · next isNil => cases isNil
      -- All branches but the last are for characters with a meaning of their own.
      all_goals
        next same =>
          cases same
          first
          | exact absurd rfl ordinary
          | rfl

/-! ## Pieces of patterns -/

/-- An item is flat, and under the flags, which it leaves as they are, it means an expression that
matches what a part matches. -/
structure Means (flags : Flags) (item : Sized Pattern) (part : Expr) : Prop where
  height_le : item.height ≤ 3
  exists_interpret :
    ∃ expr, Expr.interpret flags item.value = .ok (expr, flags) ∧ expr.Spans = part.Spans

/-- A state that has some more items than another one. -/
structure Extends (state next : State) (items : List (Sized Pattern)) : Prop where
  items_eq : next.items = items ++ state.items
  frames_eq : next.frames = state.frames
  branches_eq : next.branches = state.branches
  spaced_eq : next.spaced = state.spaced

theorem Extends.trans {last : State} {items more : List (Sized Pattern)}
    (first : Extends state next items) (second : Extends next last more) :
    Extends state last (more ++ items) where
  items_eq := by rw [second.items_eq, first.items_eq, List.append_assoc]
  frames_eq := second.frames_eq.trans first.frames_eq
  branches_eq := second.branches_eq.trans first.branches_eq
  spaced_eq := second.spaced_eq.trans first.spaced_eq

/-- A piece of a pattern is read as a row of parts, whatever stands around it.  The items of a state
are in reverse. -/
structure Spells (flags : Flags) (written : List Char) (parts : List Expr) : Prop where
  head_ne : written.head? ≠ some '?'
  reads (state : State) (rest : List Char) (plain : state.spaced = false)
    (greedy : rest.head? ≠ some '?') :
    ∃ next items, ComesTo state (written ++ rest) next rest ∧ Extends state next items ∧
      List.Forall₂ (Means flags) items parts.reverse

namespace Spells

variable {flags : Flags} {written others : List Char} {parts more : List Expr}

theorem nil (flags : Flags) : Spells flags [] [] where
  head_ne := nofun
  reads state rest _ _ := ⟨state, [], .refl state rest, ⟨rfl, rfl, rfl, rfl⟩, .nil⟩

/-- Pieces can be put together. -/
theorem append (first : Spells flags written parts) (second : Spells flags others more) :
    Spells flags (written ++ others) (parts ++ more) where
  head_ne := by
    cases written with
    | nil => exact second.head_ne
    | cons c written => exact first.head_ne
  reads state rest plain greedy := by
    have greedyBetween : (others ++ rest).head? ≠ some '?' := by
      cases others with
      | nil => exact greedy
      | cons c others => exact second.head_ne
    obtain ⟨between, items, comes, grown, means⟩ :=
      first.reads state (others ++ rest) plain greedyBetween
    obtain ⟨next, laterItems, comesBehind, grownBehind, meansBehind⟩ :=
      second.reads between rest (grown.spaced_eq.trans plain) greedy
    refine ⟨next, laterItems ++ items, ?_, grown.trans grownBehind, ?_⟩
    · rw [List.append_assoc]
      exact comes.trans comesBehind
    · rw [List.reverse_append]
      exact List.rel_append meansBehind means

/-- A piece that is read as one item. -/
theorem of_item {part : Expr} (head_ne : written.head? ≠ some '?')
    (reads : ∀ (state : State) (rest : List Char), state.spaced = false → rest.head? ≠ some '?' →
      ∃ next item, ComesTo state (written ++ rest) next rest ∧ Extends state next [item] ∧
        Means flags item part) : Spells flags written [part] where
  head_ne := head_ne
  reads state rest plain greedy := by
    obtain ⟨next, item, comes, grown, means⟩ := reads state rest plain greedy
    exact ⟨next, [item], comes, grown, .cons means .nil⟩

end Spells

/-- The flags of fragments and globs: only case may be of no importance. -/
def caseFlags (insensitive : Bool) : Flags :=
  { caseInsensitive := insensitive }

theorem spells_escape (insensitive : Bool) (c : Char) :
    Spells (caseFlags insensitive) (escape c)
      [.one (if insensitive then .caseClosure (.single c) else .single c)] := by
  refine .of_item ?_ fun state rest plain greedy =>
    ⟨_, _, comesTo_escape plain c, ⟨rfl, rfl, rfl, rfl⟩, ⟨Nat.zero_le _, ?_⟩⟩
  · rw [escape]
    split
    · nofun
    · next ordinary =>
        rintro ⟨⟩
        exact ordinary rfl
  · cases insensitive with
    | true => exact ⟨_, rfl, rfl⟩
    | false => exact ⟨_, rfl, rfl⟩

theorem spells_anyWithinLine (insensitive : Bool) :
    Spells (caseFlags insensitive) ['.', '*'] [anyNumber withinLine] :=
  .of_item nofun fun _ _ plain greedy =>
    ⟨_, _, (comesTo_dot plain).trans (comesTo_star plain greedy rfl), ⟨rfl, rfl, rfl, rfl⟩,
      ⟨by decide, _, rfl, rfl⟩⟩

theorem spells_withinPart :
    Spells (caseFlags false) ['[', '^', '/', '\\', '\\', ']'] [.one withinPart] :=
  .of_item nofun fun _ _ plain _ =>
    ⟨_, _, comesTo_withinPart plain, ⟨rfl, rfl, rfl, rfl⟩, ⟨by decide, _, rfl, rfl⟩⟩

theorem spells_anyWithinPart :
    Spells (caseFlags false) ['[', '^', '/', '\\', '\\', ']', '*'] [anyNumber withinPart] :=
  .of_item nofun fun _ _ plain greedy =>
    ⟨_, _, (comesTo_withinPart plain).trans (comesTo_star plain greedy rfl), ⟨rfl, rfl, rfl, rfl⟩,
      ⟨by decide, _, rfl, rfl⟩⟩

theorem spells_caret (insensitive : Bool) :
    Spells (caseFlags insensitive) ['^'] [.look .textStart] :=
  .of_item nofun fun _ _ plain _ =>
    ⟨_, _, comesTo_assertion plain (.inl ⟨rfl, rfl⟩), ⟨rfl, rfl, rfl, rfl⟩,
      ⟨by decide, _, rfl, rfl⟩⟩

theorem spells_dollar (insensitive : Bool) :
    Spells (caseFlags insensitive) ['$'] [.look .textEnd] :=
  .of_item nofun fun _ _ plain _ =>
    ⟨_, _, comesTo_assertion plain (.inr ⟨rfl, rfl⟩), ⟨rfl, rfl, rfl, rfl⟩,
      ⟨by decide, _, rfl, rfl⟩⟩

/-- The number that a boundary bears does not matter to what it matches. -/
theorem spells_opening (insensitive : Bool) :
    Spells (caseFlags insensitive) ['(', '^', '|', '\\', 'W', ')'] [fragmentEnd 1 .textStart] :=
  .of_item nofun fun _ _ plain _ =>
    ⟨_, _, comesTo_boundary plain (.inl ⟨rfl, rfl⟩), ⟨rfl, rfl, rfl, rfl⟩,
      ⟨Nat.le_succ 2, _, rfl, rfl⟩⟩

theorem spells_closing (insensitive : Bool) :
    Spells (caseFlags insensitive) ['(', '$', '|', '\\', 'W', ')'] [fragmentEnd 2 .textEnd] :=
  .of_item nofun fun _ _ plain _ =>
    ⟨_, _, comesTo_boundary plain (.inr ⟨rfl, rfl⟩), ⟨rfl, rfl, rfl, rfl⟩,
      ⟨Nat.le_succ 2, _, rfl, rfl⟩⟩

/-! ## Whole patterns -/

section Joining

variable {flags : Flags} {items : List (Sized Pattern)} {parts : List Expr}

/-- Items are joined from the last one to the first one. -/
theorem exists_interpret_foldl {joined : Pattern} {behind : List Expr}
    (means : List.Forall₂ (Means flags) items parts)
    (meansJoined : ∃ expr, Expr.interpret flags joined = .ok (expr, flags) ∧
      expr.Spans = (inSequence behind).Spans) :
    ∃ expr, Expr.interpret flags
        (items.foldl (fun joined item => .concat item.value joined) joined) = .ok (expr, flags) ∧
      expr.Spans = (inSequence (parts.reverse ++ behind)).Spans := by
  -- The next item goes in front of what is joined already, so that grows along the induction.
  induction means generalizing joined behind with
  | nil => exact meansJoined
  | @cons item part items parts here _ inductionHypothesis =>
      obtain ⟨first, first_eq, firstSpans⟩ := here.exists_interpret
      obtain ⟨rest, rest_eq, restSpans⟩ := meansJoined
      rw [List.reverse_cons, List.append_assoc]
      refine inductionHypothesis ⟨.concat first rest, ?_, ?_⟩
      · rw [Expr.interpret, first_eq]
        change (Expr.interpret flags joined >>= _) = _
        rw [rest_eq]
        rfl
      · funext before text after
        rw [List.singleton_append, inSequence, List.foldr_cons, Expr.Spans, Expr.Spans, firstSpans,
          restSpans, inSequence]

/-- A row of items means the row of parts. -/
theorem exists_interpret_joinReversed (means : List.Forall₂ (Means flags) items parts.reverse) :
    ∃ expr, Expr.interpret flags (Sized.joinReversed .empty .concat items).value =
        .ok (expr, flags) ∧
      expr.Spans = (inSequence parts).Spans := by
  obtain ⟨reversed, rfl⟩ : ∃ reversed, parts = reversed.reverse :=
    ⟨parts.reverse, parts.reverse_reverse.symm⟩
  rw [List.reverse_reverse] at means
  cases means with
  | nil => exact ⟨.empty, rfl, rfl⟩
  | @cons item part earlier earlierParts here means =>
      have joined_eq : (Sized.joinReversed .empty .concat (item :: earlier)).value =
          earlier.foldl (fun joined item => .concat item.value joined) item.value := by
        cases earlier with
        | nil => rfl
        | cons next earlier => rfl
      obtain ⟨expr, expr_eq, spans⟩ := here.exists_interpret
      rw [joined_eq, List.reverse_cons]
      exact exists_interpret_foldl means
        ⟨expr, expr_eq, spans.trans (spans_inSequence_singleton part).symm⟩

/-- The first item stands in front of all others together. -/
theorem joinReversed_append_singleton (last first : Sized Pattern) :
    (Sized.joinReversed .empty .concat (last :: items ++ [first])).value =
      .concat first.value (Sized.joinReversed .empty .concat (last :: items)).value := by
  cases items with
  | nil => rfl
  | cons next items => exact List.foldl_append

end Joining

theorem height_foldl_le {items : List (Sized Pattern)} {bound height : Nat}
    (flat : ∀ item ∈ items, item.height ≤ bound) (height_le : height ≤ bound) :
    items.foldl (fun height item => Nat.max height item.height) height ≤ bound := by
  induction items generalizing height with
  | nil => exact height_le
  | cons item items inductionHypothesis =>
      obtain ⟨here, behind⟩ := List.forall_mem_cons.mp flat
      exact inductionHypothesis behind (Nat.max_le.mpr ⟨height_le, here⟩)

theorem height_joinReversed_le {items : List (Sized Pattern)} {bound : Nat}
    (flat : ∀ item ∈ items, item.height ≤ bound) :
    (Sized.joinReversed .empty .concat items).height ≤ 1 + bound := by
  match items with
  | [] => exact Nat.zero_le _
  | [only] => exact (flat only List.mem_cons_self).trans (Nat.le_add_left bound 1)
  | last :: next :: earlier =>
      exact Nat.add_le_add_left (height_foldl_le flat (Nat.zero_le bound)) 1

/-- When a whole text has been read outside every group, its items make the pattern. -/
theorem read_eq_of_comesTo {written : List Char} {state : State} {bound : Nat}
    (comes : ComesTo .start written state []) (frames_eq : state.frames = [])
    (branches_eq : state.branches = []) (plain : state.spaced = false)
    (flat : ∀ item ∈ state.items, item.height ≤ bound) (shallow : bound < nestLimit) :
    Pattern.read written = .ok (Sized.joinReversed .empty .concat state.items).value := by
  obtain ⟨left, positive, read_eq⟩ := comes (written.length + 1) (Nat.lt_succ_self _)
  have end_eq : readFuel left state [] = .ok (Sized.joinReversed .empty .concat state.items) := by
    cases left with
    | zero => cases positive
    | succ left =>
        cases state
        cases frames_eq
        cases branches_eq
        cases plain
        rfl
  rw [Pattern.read, read_eq, end_eq]
  refine if_neg (Nat.not_lt.mpr ((height_joinReversed_le flat).trans ?_))
  rwa [Nat.add_comm]

namespace Spells

variable {flags : Flags} {written whole : List Char} {parts : List Expr}

/-- A whole text that ends with a piece is read as a pattern that ends with its items. -/
theorem exists_read {state : State} (spells : Spells flags written parts)
    (comes : ComesTo .start whole state written) (frames_eq : state.frames = [])
    (branches_eq : state.branches = []) (plain : state.spaced = false)
    (flat : ∀ item ∈ state.items, item.height ≤ 3) :
    ∃ items, List.Forall₂ (Means flags) items parts.reverse ∧
      Pattern.read whole =
        .ok (Sized.joinReversed .empty .concat (items ++ state.items)).value := by
  obtain ⟨next, items, comesBehind, grown, means⟩ := spells.reads state [] plain nofun
  rw [List.append_nil] at comesBehind
  refine ⟨items, means, ?_⟩
  rw [← grown.items_eq]
  refine read_eq_of_comesTo (comes.trans comesBehind) (grown.frames_eq.trans frames_eq)
    (grown.branches_eq.trans branches_eq) (grown.spaced_eq.trans plain) ?_
    (show 3 < nestLimit by decide)
  have flatItems : ∀ item ∈ items, item.height ≤ 3 :=
    ((List.forall₂_and_left items parts.reverse).mp
      (means.imp fun _ _ itemMeans => ⟨itemMeans.height_le, itemMeans⟩)).1
  rw [grown.items_eq]
  exact List.forall_mem_append.mpr ⟨flatItems, flat⟩

/-- A pattern without flags matches what its parts match in a row. -/
theorem exists_ofPattern (spells : Spells (caseFlags false) written parts) :
    ∃ expr, (Pattern.read written >>= Expr.ofPattern) = .ok expr ∧
      expr.Spans = (inSequence parts).Spans := by
  obtain ⟨items, means, read_eq⟩ := spells.exists_read (.refl .start written) rfl rfl rfl nofun
  obtain ⟨expr, expr_eq, spans⟩ := exists_interpret_joinReversed means
  refine ⟨expr, ?_, spans⟩
  rw [read_eq]
  change (Expr.interpret (caseFlags false)
    (Sized.joinReversed .empty .concat (items ++ [])).value >>= _) = _
  rw [List.append_nil, expr_eq]
  rfl

/-- A pattern that begins with the flag of fragments matches what its parts match in a row. -/
theorem exists_ofPattern_caseInsensitive (spells : Spells (caseFlags true) written parts) :
    ∃ expr, (Pattern.read ("(?i)".toList ++ written) >>= Expr.ofPattern) = .ok expr ∧
      expr.Spans = (inSequence parts).Spans := by
  obtain ⟨items, means, read_eq⟩ := spells.exists_read (comesTo_caseInsensitive rfl) rfl rfl rfl
    (List.forall_mem_singleton.mpr (Nat.zero_le 3))
  obtain ⟨expr, expr_eq, spans⟩ := exists_interpret_joinReversed means
  change ∃ expr, (Pattern.read ('(' :: '?' :: 'i' :: ')' :: written) >>= _) = _ ∧ _
  rw [read_eq]
  cases items with
  | nil =>
      cases expr_eq
      exact ⟨.empty, rfl, spans⟩
  | cons item items =>
      refine ⟨.concat .empty expr, ?_, (Expr.spans_concat_empty expr).trans spans⟩
      change (Expr.interpret {} (Sized.joinReversed .empty .concat
        (item :: items ++ [⟨.flags [(.caseInsensitive, true)], 0⟩])).value >>= _) = _
      rw [joinReversed_append_singleton]
      change ((Expr.interpret (caseFlags true) _ >>= _) >>= _) = _
      rw [expr_eq]
      rfl

end Spells

end LogQuery.Wildcard
