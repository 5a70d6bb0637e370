import AuthKeyspace.Proofs.Cql.Cursor
import AuthKeyspace.Proofs.Cql.Reading

/-!
# Walks that follow readers of lists

What a walk of `Proofs/Cql/Cursor` does is sound (`Event.Sound`) if it looks only at
items that are there, moves the cursor only over tokens, and finishes nothing without
having used up a token. `Cursor.Sound` says this of all that has been done with a
cursor, and that the cursor never goes back, leaves out no place on its way and stands
on an item.

A walk `Follows` a reader of lists if, with the cursor in front of some tokens, it does
what the reader makes of these tokens, what it does is sound, and what is finished then
is known from the result. This goes through binds (`Follows.bind`), so a reader made of
others needs a proof that goes the way of its definition. Here are the steps and the
readers of keywords, symbols and names; `Proofs/Cql/Progress` has the others.
-/

namespace AuthKeyspace.Cql

open Reader

namespace Walk

/-! ## What has to hold of a cursor -/

/-- What is done keeps to the items: what is looked at is there, what the cursor
moves over is a token, and what is finished has used up a token at least. -/
def Event.Sound (items : List Item) : Event → Prop
  | .look index offset => index + offset < items.length
  | .move index next => next = index + 1 ∧ ∃ t, items[index]? = some (.token t)
  | .finish _ start stop => start < stop

/-- The work that an event finishes, if it does. -/
def Event.work? : Event → Option Work
  | .finish work _ _ => some work
  | _ => none

/-- The work that has been finished. -/
def Cursor.finished (c : Cursor) : List Work := c.events.filterMap Event.work?

/-- The place that an event moves the cursor away from, if it does. -/
def Event.left? : Event → Option Nat
  | .move index _ => some index
  | _ => none

/-- All that has been done keeps to the items, the cursor has never gone back and has
left each place before its own once, one after the other, and it stands on an item. -/
structure Cursor.Sound (items : List Item) (c : Cursor) : Prop where
  event_sound : ∀ e ∈ c.events, e.Sound items
  ordered : (c.events.map Event.index).Pairwise (· ≤ ·)
  index_le : ∀ e ∈ c.events, e.index ≤ c.index
  left_eq : c.events.filterMap Event.left? = List.range c.index
  index_lt : c.index < items.length

/-- An event is the next one for a cursor if it leaves it where it is or moves it on by
one place. -/
def Event.Next (c : Cursor) (e : Event) : Prop :=
  e.left? = none ∧ e.index = c.index ∨ e.left? = some c.index ∧ e.index = c.index + 1

theorem Cursor.Sound.after {items : List Item} {c : Cursor} (h : c.Sound items) {e : Event}
    (he : e.Sound items) (hnext : e.Next c) (hlt : e.index < items.length) :
    (c.after e).Sound items := by
  have hle : c.index ≤ e.index := by
    rcases hnext with ⟨-, hindex⟩ | ⟨-, hindex⟩ <;> omega
  refine ⟨?event_sound, ?ordered, ?index_le, ?left_eq, hlt⟩
  case event_sound =>
    intro d hd
    rcases List.mem_append.1 hd with hd | hd
    · exact h.event_sound d hd
    · rwa [List.mem_singleton.1 hd]
  case ordered =>
    rw [Cursor.after, List.map_append, List.pairwise_append]
    refine ⟨h.ordered, List.pairwise_singleton _ _, ?_⟩
    intro i hi j hj
    obtain ⟨d, hd, rfl⟩ := List.mem_map.1 hi
    rw [List.mem_singleton.1 hj]
    exact Nat.le_trans (h.index_le d hd) hle
  case index_le =>
    intro d hd
    rcases List.mem_append.1 hd with hd | hd
    · exact Nat.le_trans (h.index_le d hd) hle
    · rw [List.mem_singleton.1 hd]
      exact Nat.le_refl _
  case left_eq =>
    rw [Cursor.after, List.filterMap_append, h.left_eq]
    rcases hnext with ⟨hleft, hindex⟩ | ⟨hleft, hindex⟩
    · simp [hleft, hindex]
    · simp [hleft, hindex, List.range_succ]

/-! ## Walks along tokens -/

/-- The tokens of a text, where it ends, and how much slack loops are given. -/
structure Course where
  tokens : List Token
  position : Nat
  slack : Nat

/-- The tokens and the end. -/
def Course.items (s : Course) : List Item := s.tokens.map .token ++ [.textEnd s.position]

def Course.track (s : Course) : Track := ⟨s.items, s.slack⟩

variable {s : Course} {α β : Type} {left rest mid : List Token} {done done' done'' : List Work}
variable {total : α → List Work} {total' : β → List Work}

/-- The cursor has gone as far as `left`, `done` is finished, and nothing has gone
wrong. -/
structure Stands (s : Course) (left : List Token) (done : List Work) (c : Cursor) : Prop where
  sound : c.Sound s.items
  drop_eq : s.tokens.drop c.index = left
  finished_eq : c.finished = done

/-- From `left`, with `done` finished, the walk goes to `rest`, with the result `a`, and
then `done'` is finished. -/
def Does (s : Course) (w : Walk α) (left : List Token) (done : List Work) (a : α)
    (rest : List Token) (done' : List Work) : Prop :=
  ∀ c, Stands s left done c → ∃ c', w.go s.track c = (.ok a, c') ∧ Stands s rest done' c'

/-- From `left`, with `done` finished, the walk comes to a fault. -/
def Fails (s : Course) (w : Walk α) (left : List Token) (done : List Work)
    (e : GrammarError) : Prop :=
  ∀ c, Stands s left done c → ∃ c', w.go s.track c = (.error (.fault e), c') ∧ c'.Sound s.items

/-- From `left`, with `done` finished, the walk does what a reader of lists does; what is
finished then is given by `total` for the result. -/
def Follows (s : Course) (w : Walk α) (left : List Token) (done : List Work)
    (total : α → List Work) : Except GrammarError (α × List Token) → Prop
  | .ok (a, rest) => Does s w left done a rest (total a)
  | .error e => Fails s w left done e

theorem go_bind_of_ok {w : Walk α} {a : α} {t : Track} {c c' : Cursor}
    (h : w.go t c = (.ok a, c')) (f : α → Walk β) : (w >>= f).go t c = (f a).go t c' := by
  unfold go at h ⊢
  simp only [ReaderT.run_bind, ExceptT.run_bind, StateT.run_bind, h]
  rfl

theorem go_bind_of_error {w : Walk α} {e : Stop} {t : Track} {c c' : Cursor}
    (h : w.go t c = (.error e, c')) (f : α → Walk β) : (w >>= f).go t c = (.error e, c') := by
  unfold go at h ⊢
  simp only [ReaderT.run_bind, ExceptT.run_bind, StateT.run_bind, h]
  rfl

theorem does_pure (a : α) : Does s (pure a) left done a left done := fun c h => ⟨c, rfl, h⟩

theorem follows_pure {a : α} (h : total a = done) :
    Follows s (pure a) left done total (.ok (a, left)) := h ▸ does_pure a

theorem fails_fail (fault : GrammarFault) (token? : Option Token) :
    Fails s (fail fault token? : Walk α) left done ⟨fault, token?⟩ :=
  fun c h => ⟨c, rfl, h.sound⟩

theorem Does.bind {w : Walk α} {f : α → Walk β} {a : α} {b : β}
    (h : Does s w left done a mid done') (hf : Does s (f a) mid done' b rest done'') :
    Does s (w >>= f) left done b rest done'' := by
  intro c hc
  obtain ⟨c', hgo, hc'⟩ := h c hc
  rw [go_bind_of_ok hgo]
  exact hf c' hc'

theorem Does.fails {w : Walk α} {f : α → Walk β} {a : α} {e : GrammarError}
    (h : Does s w left done a mid done') (hf : Fails s (f a) mid done' e) :
    Fails s (w >>= f) left done e := by
  intro c hc
  obtain ⟨c', hgo, hc'⟩ := h c hc
  rw [go_bind_of_ok hgo]
  exact hf c' hc'

theorem Fails.bind {w : Walk α} {e : GrammarError} (h : Fails s w left done e)
    (f : α → Walk β) : Fails s (w >>= f) left done e := by
  intro c hc
  obtain ⟨c', hgo, hc'⟩ := h c hc
  exact ⟨c', go_bind_of_error hgo f, hc'⟩

/-- A step, and what is done total it. -/
theorem Does.follows {w : Walk α} {f : α → Walk β} {a : α}
    {x : Except GrammarError (β × List Token)} (h : Does s w left done a mid done')
    (hf : Follows s (f a) mid done' total' x) : Follows s (w >>= f) left done total' x := by
  cases x with
  | ok b => exact Does.bind h hf
  | error e => exact Does.fails h hf

theorem Follows.bind {w : Walk α} {f : α → Walk β} {x : Except GrammarError (α × List Token)}
    {g : α × List Token → Except GrammarError (β × List Token)} (h : Follows s w left done total x)
    (hf : ∀ a rest, x = .ok (a, rest) → Follows s (f a) rest (total a) total' (g (a, rest))) :
    Follows s (w >>= f) left done total' (x >>= g) := by
  cases x with
  | ok b => exact Does.follows h (hf b.1 b.2 rfl)
  | error e => exact Fails.bind h f

/-- The same where a reader gives nothing but what it leaves. -/
theorem Follows.then {w : Walk Unit} {f : Unit → Walk β} {x : Except GrammarError (List Token)}
    {g : List Token → Except GrammarError (β × List Token)}
    (h : Follows s w left done (fun _ => done') (x.map fun rest => ((), rest)))
    (hf : ∀ rest, x = .ok rest → Follows s (f ()) rest done' total' (g rest)) :
    Follows s (w >>= f) left done total' (x >>= g) := by
  cases x with
  | ok rest => exact Does.follows h (hf rest rfl)
  | error e => exact Fails.bind h f

/-! ## Single steps -/

theorem Stands.index_add_length {c : Cursor} (h : Stands s left done c) :
    c.index + left.length = s.tokens.length := by
  have hlt := h.sound.index_lt
  simp only [Course.items, List.length_append, List.length_map, List.length_singleton] at hlt
  rw [← h.drop_eq, List.length_drop]
  omega

theorem Cursor.finished_after (c : Cursor) (e : Event) :
    (c.after e).finished = c.finished ++ e.work?.toList := by
  rw [finished, Cursor.after, List.filterMap_append]
  cases e <;> rfl

/-- What leaves the cursor where it is can only finish work. -/
theorem Stands.after {c : Cursor} (h : Stands s left done c) {e : Event}
    (he : e.Sound s.items) (hleft : e.left? = none) (hindex : e.index = c.index) :
    Stands s left (done ++ e.work?.toList) (c.after e) where
  sound := h.sound.after he (.inl ⟨hleft, hindex⟩) (hindex ▸ h.sound.index_lt)
  drop_eq := by
    rw [Cursor.after, hindex]
    exact h.drop_eq
  finished_eq := by rw [Cursor.finished_after, h.finished_eq]

theorem does_place :
    Does s place left done (s.tokens.length - left.length) left done := by
  intro c h
  have hindex := h.index_add_length
  refine ⟨c, ?_, h⟩
  rw [show s.tokens.length - left.length = c.index by omega]
  rfl

/-- The item some places behind the cursor. -/
def itemAt (s : Course) (left : List Token) (offset : Nat) : Item :=
  left[offset]?.elim (.textEnd s.position) .token

theorem token?_itemAt (s : Course) (left : List Token) (offset : Nat) :
    (itemAt s left offset).token? = left[offset]? := by
  unfold itemAt
  cases left[offset]? <;> rfl

theorem Stands.getElem?_items {c : Cursor} (h : Stands s left done c) {offset : Nat}
    (hoffset : offset ≤ left.length) :
    s.items[c.index + offset]? = some (itemAt s left offset) := by
  have hindex := h.index_add_length
  have htoken : left[offset]? = s.tokens[c.index + offset]? := by
    rw [← h.drop_eq, List.getElem?_drop]
  unfold itemAt Course.items
  rcases Nat.lt_or_eq_of_le hoffset with hlt | heq
  · have hinside : c.index + offset < s.tokens.length := by omega
    rw [List.getElem?_append_left (by simpa using hinside), List.getElem?_map, htoken,
      List.getElem?_eq_getElem hinside]
    rfl
  · have hend : c.index + offset = s.tokens.length := by omega
    have hnone : left[offset]? = none := List.getElem?_eq_none (Nat.le_of_eq heq.symm)
    rw [hend, hnone]
    simp

/-- What is looked at is there, so there is no need to take the last item instead. -/
theorem does_look {offset : Nat} (h : offset ≤ left.length) :
    Does s (look offset) left done (itemAt s left offset) left done := by
  intro c hc
  have hindex := hc.index_add_length
  have hitem := hc.getElem?_items h
  have hlt : c.index + offset < s.items.length := List.getElem?_eq_some_iff.1 hitem |>.1
  have hmin : min (c.index + offset) (s.items.length - 1) = c.index + offset := by omega
  have hsound : (Event.look c.index offset).Sound s.items := hlt
  have hstands : Stands s left (done ++ []) (c.after (.look c.index offset)) :=
    hc.after hsound rfl rfl
  rw [List.append_nil] at hstands
  refine ⟨c.after (.look c.index offset), ?_, hstands⟩
  have hplace : place.go s.track c = (.ok c.index, c) := rfl
  have hhappen : (happen (.look c.index offset)).go s.track c =
      (.ok (), c.after (.look c.index offset)) := rfl
  have hread : (read : Walk Track).go s.track (c.after (.look c.index offset)) =
    (.ok s.track, c.after (.look c.index offset)) := rfl
  rw [look, go_bind_of_ok hplace, go_bind_of_ok hhappen, go_bind_of_ok hread]
  have htrack : s.track.items = s.items := rfl
  simp only [htrack, hmin, hitem]
  rfl

theorem does_sees (test : Lexeme → Bool) {offset : Nat} (h : offset ≤ left.length) :
    Does s (sees test offset) left done (left[offset]?.any (test ·.lexeme)) left done := by
  refine Does.bind (does_look h) ?_
  rw [token?_itemAt]
  exact does_pure _

/-- The cursor is moved only where it stands on a token. -/
theorem does_advance (t : Token) (rest : List Token) :
    Does s advance (t :: rest) done () rest done := by
  refine Does.bind (does_look (Nat.zero_le _)) ?_
  intro c hc
  have hindex := hc.index_add_length
  have hitem : s.items[c.index]? = some (.token t) := hc.getElem?_items (Nat.zero_le _)
  have hinside : c.index + 1 < s.items.length := by
    simp only [Course.items, List.length_append, List.length_map, List.length_cons] at hindex ⊢
    omega
  refine ⟨c.after (.move c.index (c.index + 1)), rfl, ?sound, ?drop_eq, ?finished_eq⟩
  case sound => exact hc.sound.after ⟨rfl, t, hitem⟩ (.inr ⟨rfl, rfl⟩) hinside
  case drop_eq =>
    show s.tokens.drop (c.index + 1) = rest
    rw [← List.drop_drop, hc.drop_eq]
    rfl
  case finished_eq =>
    rw [Cursor.finished_after, hc.finished_eq]
    exact List.append_nil done

/-- What is finished has used up tokens since its start. -/
theorem does_finish (work : Work) {start : Nat} (h : start + rest.length < s.tokens.length) :
    Does s (finish work start) rest done () rest (done ++ [work]) := by
  intro c hc
  have hindex := hc.index_add_length
  have hsound : (Event.finish work start c.index).Sound s.items := by
    show start < c.index
    omega
  exact ⟨c.after (.finish work start c.index), rfl, hc.after hsound rfl rfl⟩

/-- A piece of work that follows a reader, and its end. -/
theorem Follows.finish {w : Walk α} {x : Except GrammarError (α × List Token)}
    (h : Follows s w left done total x) (work : Work) {start : Nat}
    (hstart : ∀ a rest, x = .ok (a, rest) → start + rest.length < s.tokens.length) :
    Follows s (w >>= fun a => Walk.finish work start >>= fun _ => pure a) left done
      (fun a => total a ++ [work]) x := by
  cases x with
  | ok b => exact Does.bind h (Does.bind (does_finish work (hstart b.1 b.2 rfl)) (does_pure b.1))
  | error e => exact Fails.bind h _

/-- A bound is greater than the number of tokens left. -/
theorem does_bound : Does s bound left done (left.length + 1 + s.slack) left done := by
  intro c hc
  have hindex := hc.index_add_length
  have hlength : s.track.items.length = s.tokens.length + 1 := by
    simp [Course.track, Course.items]
  refine ⟨c, ?_, hc⟩
  rw [show left.length + 1 + s.slack = s.track.items.length - c.index + s.track.slack by
    rw [hlength]
    show _ = _ + s.slack
    omega]
  rfl

theorem follows_missing (what : Expectation) :
    Follows s (missing what : Walk α) left done total (Reader.missing what left) := by
  refine Does.follows (does_look (Nat.zero_le _)) ?_
  rw [token?_itemAt, ← List.head?_eq_getElem?]
  exact fails_fail _ _

/-! ## Keywords, symbols and names -/

/-- Does the next token pass a test? -/
def startsWith (test : Lexeme → Bool) (left : List Token) : Bool := left[0]?.any (test ·.lexeme)

theorem startsWith_isKeyword (k : String) (left : List Token) :
    startsWith (·.isKeyword k) left = startsWithKeyword k left := by
  cases left <;> rfl

theorem startsWith_isSymbol (y : Symbol) (left : List Token) :
    startsWith (·.isSymbol y) left = startsWithSymbol y left := by
  cases left <;> rfl

theorem does_sees_keyword (k : String) {offset : Nat} (h : offset ≤ left.length) :
    Does s (sees (·.isKeyword k) offset) left done (startsWithKeyword k (left.drop offset))
      left done := by
  rw [← startsWith_isKeyword, startsWith, List.getElem?_drop, Nat.add_zero]
  exact does_sees _ h

theorem does_accept {test : Lexeme → Bool} (h : startsWith test left = true) :
    Does s (accept test) left done true left.tail done := by
  refine Does.bind (does_sees test (Nat.zero_le _)) ?_
  cases left with
  | nil => cases h
  | cons t rest =>
    rw [startsWith] at h
    rw [h, if_pos rfl]
    exact Does.bind (does_advance t rest) (does_pure true)

theorem does_accept_not {test : Lexeme → Bool} (h : startsWith test left = false) :
    Does s (accept test) left done false left done := by
  refine Does.bind (does_sees test (Nat.zero_le _)) ?_
  rw [startsWith] at h
  rw [h, if_neg (by decide)]
  exact does_pure false

/-- A walk that may move on follows a reader that asks what its tokens start with. -/
theorem follows_accept {test : Lexeme → Bool} {f : Bool → Walk β}
    {x y : Except GrammarError (β × List Token)}
    (hyes : startsWith test left = true → Follows s (f true) left.tail done total' x)
    (hno : startsWith test left = false → Follows s (f false) left done total' y) :
    Follows s (accept test >>= f) left done total'
      (if startsWith test left = true then x else y) := by
  cases h : startsWith test left with
  | true => exact Does.follows (does_accept h) (hyes h)
  | false => exact Does.follows (does_accept_not h) (hno h)

theorem follows_accept_keyword {k : String} {f : Bool → Walk β}
    {x y : Except GrammarError (β × List Token)}
    (hyes : startsWithKeyword k left = true → Follows s (f true) left.tail done total' x)
    (hno : startsWithKeyword k left = false → Follows s (f false) left done total' y) :
    Follows s (accept (·.isKeyword k) >>= f) left done total'
      (if startsWithKeyword k left = true then x else y) := by
  rw [← startsWith_isKeyword] at hyes hno ⊢
  exact follows_accept hyes hno

theorem follows_accept_symbol {y : Symbol} {f : Bool → Walk β}
    {x x' : Except GrammarError (β × List Token)}
    (hyes : startsWithSymbol y left = true → Follows s (f true) left.tail done total' x)
    (hno : startsWithSymbol y left = false → Follows s (f false) left done total' x') :
    Follows s (accept (·.isSymbol y) >>= f) left done total'
      (if startsWithSymbol y left = true then x else x') := by
  rw [← startsWith_isSymbol] at hyes hno ⊢
  exact follows_accept hyes hno

theorem follows_expect (what : Expectation) (test : Lexeme → Bool) :
    Follows s (expect what test) left done (fun _ => done)
      ((if startsWith test left then .ok left.tail else Reader.missing what left).map
        fun rest => ((), rest)) := by
  cases h : startsWith test left with
  | true => exact Does.bind (does_accept h) (does_pure ())
  | false =>
    refine Does.follows (does_accept_not h) ?_
    exact follows_missing (α := Unit) what

theorem follows_keyword (k : String) :
    Follows s (keyword k) left done (fun _ => done)
      ((Reader.keyword k left).map fun rest => ((), rest)) := by
  rw [Reader.keyword, ← startsWith_isKeyword]
  exact follows_expect _ _

theorem follows_symbol (y : Symbol) :
    Follows s (symbol y) left done (fun _ => done)
      ((Reader.symbol y left).map fun rest => ((), rest)) := by
  rw [Reader.symbol, ← startsWith_isSymbol]
  exact follows_expect _ _

theorem follows_name (what : Expectation) :
    Follows s (name what) left done (fun _ => done) (Reader.name what left) := by
  refine Does.follows (does_look (Nat.zero_le _)) ?_
  rw [token?_itemAt]
  cases left with
  | nil => exact follows_missing what
  | cons t rest =>
    simp only [List.getElem?_cons_zero, Option.bind_some, Reader.name]
    cases t.lexeme.name? with
    | some n => exact Does.bind (does_advance t rest) (does_pure n)
    | none => exact follows_missing what

/-- A walk stands among the tokens, so no more are left than there are. -/
theorem Follows.of_length_le {w : Walk α} {x : Except GrammarError (α × List Token)}
    (h : left.length ≤ s.tokens.length → Follows s w left done total x) :
    Follows s w left done total x := by
  cases x with
  | ok b =>
    intro c hc
    exact h (by have := hc.index_add_length; omega) c hc
  | error e =>
    intro c hc
    exact h (by have := hc.index_add_length; omega) c hc

theorem furtherNames_of_comma {what : Expectation} {t : Token} (h : t.lexeme.isSymbol .comma = true)
    (rest : List Token) :
    Reader.furtherNames what (t :: rest) = (do
      let (n, rest) ← Reader.name what rest
      let (ns, rest) ← Reader.furtherNames what rest
      return (n :: ns, rest)) := by
  rw [Reader.furtherNames.eq_def]
  cases rest with
  | nil => simp only [h, if_true]; rfl
  | cons u rest =>
    simp only [h, if_true, Reader.name]
    cases u.lexeme.name? <;> rfl

theorem furtherNames_of_not_comma {what : Expectation} {t : Token}
    (h : t.lexeme.isSymbol .comma = false) (rest : List Token) :
    Reader.furtherNames what (t :: rest) = .ok ([], t :: rest) := by
  rw [Reader.furtherNames.eq_def]
  simp only [h]
  rfl

theorem follows_furtherNames (what : Expectation) {bound : Nat} (h : left.length < bound) :
    Follows s (furtherNames what bound) left done
      (fun ns => done ++ List.replicate ns.length .keyColumn)
      (Reader.furtherNames what left) := by
  induction bound generalizing left done with
  | zero => omega
  | succ bound ih =>
    refine .of_length_le fun hle => ?_
    refine Does.follows does_place ?_
    cases left with
    | nil => exact Does.follows (does_accept_not rfl) (follows_pure (List.append_nil done))
    | cons t rest =>
      cases hcomma : t.lexeme.isSymbol .comma with
      | false =>
        rw [furtherNames_of_not_comma hcomma]
        exact Does.follows (does_accept_not hcomma) (follows_pure (List.append_nil done))
      | true =>
        rw [furtherNames_of_comma hcomma]
        simp only [List.length_cons] at h hle ⊢
        refine Does.follows (does_accept hcomma) ?_
        refine (follows_name what).bind fun n us hname => ?_
        have hus : us.length + 1 = rest.length := length_name hname
        refine Does.follows (does_finish .keyColumn (by omega)) ?_
        refine (ih (by omega)).bind fun ns vs _ => ?_
        exact follows_pure (by simp [List.replicate_succ])

end Walk

end AuthKeyspace.Cql
