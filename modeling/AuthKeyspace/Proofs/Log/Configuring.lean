import AuthKeyspace.Log.Logger

/-!
# A configured logger has one handler

To configure a logger takes several changes: a level is given, the handlers go
one by one, and a new one is built and attached. Building a handler fails for a
name that no level has, and by then the old handlers are gone. It is never the
first to fail: the logger was given the same level before, and a name that no
level has ends the request there, with nothing changed. So a request is done in
full (`Request.run_of_level`) or not at all (`Request.run_of_unknown`).

Over a history of requests, some of which fail, a logger is therefore as the last
request that could be done has left it, and a logger that none was about is as it
was at the start, whatever handlers that had (`configure_exact`).
-/

namespace AuthKeyspace.Log

/-! ## Names -/

/-- Are the names those of one logger? -/
def SameLogger (a b : String) : Prop := a = b ∨ a ∈ ["", "root"] ∧ b ∈ ["", "root"]

theorem loggerKey_eq_iff {a b : String} : loggerKey a = loggerKey b ↔ SameLogger a b := by
  unfold loggerKey SameLogger
  grind

theorem eq_of_levelNamed_eq_error {name : String} {e : UnknownLevel}
    (h : levelNamed name = .error e) : e = ⟨name⟩ := by
  unfold levelNamed at h
  split at h <;> cases h
  rfl

/-! ## Single changes -/

namespace Loggers

variable {name level : String} {ls ls' : Loggers} {e : UnknownLevel} {n : Int} {α β : Type}

theorem set_set (ls : Loggers) (name : String) (l m : Logger) :
    (ls.set name l).set name m = ls.set name m := by
  unfold set
  congr 1
  funext key
  by_cases h : key = loggerKey name <;> simp [h]

theorem set_get_self (ls : Loggers) (name : String) : ls.set name (ls.get name) = ls := by
  obtain ⟨loggerAt⟩ := ls
  unfold set get
  congr 1
  funext key
  by_cases h : key = loggerKey name <;> simp [h]

theorem run_bind_of_ok {x : Change α} {a : α} (h : x.run.run ls = (.ok a, ls'))
    (f : α → Change β) : (x >>= f).run.run ls = (f a).run.run ls' := by
  simp only [ExceptT.run_bind, StateT.run_bind, h]
  rfl

theorem run_bind_of_error {x : Change α} (h : x.run.run ls = (.error e, ls'))
    (f : α → Change β) : (x >>= f).run.run ls = (.error e, ls') := by
  simp only [ExceptT.run_bind, StateT.run_bind, h]
  rfl

theorem run_update (name : String) (f : Logger → Logger) (ls : Loggers) :
    (update name f).run.run ls = (.ok (), ls.set name (f (ls.get name))) := rfl

theorem run_ofExcept (x : Except UnknownLevel α) (ls : Loggers) :
    (MonadExcept.ofExcept x : Change α).run.run ls = (x, ls) := by
  cases x <;> rfl

theorem run_setLevel_of_level (h : levelNamed level = .ok n) (name : String) (ls : Loggers) :
    (setLevel name level).run.run ls = (.ok (), ls.set name { ls.get name with level := n }) := by
  have hlevel := run_ofExcept (levelNamed level) ls
  rw [h] at hlevel
  rw [setLevel, h, run_bind_of_ok hlevel]
  rfl

theorem run_setLevel_of_unknown (h : levelNamed level = .error e) (name : String) (ls : Loggers) :
    (setLevel name level).run.run ls = (.error e, ls) := by
  have hlevel := run_ofExcept (levelNamed level) ls
  rw [h] at hlevel
  rw [setLevel, h, run_bind_of_error hlevel]

/-- Taking one handler away. -/
theorem run_detach (name : String) (handler : Handler) (ls : Loggers) :
    (detach name handler).run.run ls = (.ok (), ls.set name
      { ls.get name with handlers := (ls.get name).handlers.erase handler }) := rfl

/-- Taking handlers away one by one. -/
theorem run_detach_all (handlers : List Handler) (name : String) (ls : Loggers) :
    (forM handlers (detach name) : Change Unit).run.run ls = (.ok (), ls.set name
      { ls.get name with handlers := handlers.foldl List.erase (ls.get name).handlers }) := by
  induction handlers generalizing ls with
  | nil =>
    rw [List.foldl_nil]
    exact congrArg _ (set_get_self ls name).symm
  | cons handler handlers ih =>
    rw [List.forM_cons, run_bind_of_ok (run_detach name handler ls), ih, set_set, get_set_self]
    rfl

/-- Nothing is left of a list from which each of its members is taken. -/
theorem foldl_erase_self (handlers : List Handler) : handlers.foldl List.erase handlers = [] := by
  induction handlers with
  | nil => rfl
  | cons handler handlers ih => rw [List.foldl_cons, List.erase_cons_head, ih]

end Loggers

/-! ## Requests -/

/-- What is asked for when a logger is configured. -/
structure Request where
  logger : String
  level : String
  coloured : Bool

namespace Request

/-- Do what is asked for: whether it succeeds, and the loggers then. -/
def run (r : Request) (ls : Loggers) : Except UnknownLevel Unit × Loggers :=
  (Loggers.configure r.logger r.level r.coloured).run.run ls

/-- The layout that is asked for. -/
def layout (r : Request) : Layout := if r.coloured then .coloured else .plain

/-- The logger that is asked for, the level having the number `n`. -/
def configured (r : Request) (n : Int) : Logger := ⟨n, [⟨n, r.layout⟩]⟩

theorem build_of_level {r : Request} {n : Int} (h : levelNamed r.level = .ok n) :
    Handler.build r.level r.coloured = .ok ⟨n, r.layout⟩ := by
  rw [Handler.build, h]
  rfl

/-- With a level that there is, the request is done in full. -/
theorem run_of_level {r : Request} {n : Int} (h : levelNamed r.level = .ok n) (ls : Loggers) :
    r.run ls = (.ok (), ls.set r.logger (r.configured n)) := by
  let levelled := ls.set r.logger { ls.get r.logger with level := n }
  let emptied := ls.set r.logger ⟨n, []⟩
  have hlevel : (Loggers.setLevel r.logger r.level).run.run ls = (.ok (), levelled) :=
    Loggers.run_setLevel_of_level h r.logger ls
  have hget : (MonadState.get : Change Loggers).run.run levelled = (.ok levelled, levelled) := rfl
  have hdetach : (forM (levelled.get r.logger).handlers (Loggers.detach r.logger) :
      Change Unit).run.run levelled = (.ok (), emptied) := by
    rw [Loggers.run_detach_all, Loggers.foldl_erase_self, Loggers.get_set_self, Loggers.set_set]
  -- the level was known a moment ago, so no failure can come in between
  have hbuild : (MonadExcept.ofExcept (Handler.build r.level r.coloured) :
      Change Handler).run.run emptied = (.ok ⟨n, r.layout⟩, emptied) := by
    rw [build_of_level h]
    rfl
  have hattach : (Loggers.attach r.logger ⟨n, r.layout⟩).run.run emptied =
      (.ok (), ls.set r.logger (r.configured n)) := by
    rw [Loggers.attach, Loggers.run_update, Loggers.get_set_self, Loggers.set_set]
    rfl
  rw [run, Loggers.configure, Loggers.run_bind_of_ok hlevel, Loggers.run_bind_of_ok hget,
    Loggers.run_bind_of_ok hdetach, Loggers.run_bind_of_ok hbuild, hattach]

/-- With a level that there is not, nothing is done. -/
theorem run_of_unknown {r : Request} {e : UnknownLevel} (h : levelNamed r.level = .error e)
    (ls : Loggers) : r.run ls = (.error e, ls) := by
  rw [run, Loggers.configure,
    Loggers.run_bind_of_error (Loggers.run_setLevel_of_unknown h r.logger ls)]

end Request

/-! ## Histories -/

/-- The loggers after requests, whether or not they could be done. -/
def Loggers.after (ls : Loggers) (requests : List Request) : Loggers :=
  requests.foldl (fun ls r => (r.run ls).2) ls

/-- The request is about the logger of the name, and can be done. -/
def Request.Settles (r : Request) (name : String) : Prop :=
  SameLogger name r.logger ∧ ∃ n, levelNamed r.level = .ok n

theorem Request.get_run_of_not_settles {r : Request} {name : String} (h : ¬ r.Settles name)
    (ls : Loggers) : (r.run ls).2.get name = ls.get name := by
  cases hlevel : levelNamed r.level with
  | error e => rw [run_of_unknown hlevel]
  | ok n =>
    have hother : ¬ SameLogger name r.logger := fun hsame => h ⟨hsame, n, hlevel⟩
    rw [run_of_level hlevel]
    exact Loggers.get_set_of_ne (mt loggerKey_eq_iff.1 hother) ls _

/-- A logger stays as it is while no request settles it. -/
theorem Loggers.get_after_of_not_settles {requests : List Request} {name : String}
    (h : ∀ r ∈ requests, ¬ r.Settles name) (ls : Loggers) :
    (ls.after requests).get name = ls.get name := by
  induction requests generalizing ls with
  | nil => rfl
  | cons r requests ih =>
    have hmore := ih (fun q hq => h q (List.mem_cons_of_mem _ hq)) (r.run ls).2
    exact hmore.trans (Request.get_run_of_not_settles (h r (List.mem_cons_self ..)) ls)

theorem Loggers.get_congr {a b : String} (h : SameLogger a b) (ls : Loggers) :
    ls.get a = ls.get b := congrArg ls.loggerAt (loggerKey_eq_iff.2 h)

/-- The request has been done in full: its logger has the level that was asked for,
and one handler with that level and the layout that was asked for. Every other
logger is as it was. -/
structure Request.Done (r : Request) (n : Int) (before after : Loggers) : Prop where
  level_eq : (after.get r.logger).level = n
  handlers_eq : ∃ handler, (after.get r.logger).handlers = [handler] ∧ handler.level = n ∧
    handler.layout = if r.coloured then .coloured else .plain
  get_other : ∀ other, ¬ SameLogger other r.logger → after.get other = before.get other

theorem Request.done_set (r : Request) (n : Int) (ls : Loggers) :
    r.Done n ls (ls.set r.logger (r.configured n)) where
  level_eq := by
    rw [Loggers.get_set_self]
    rfl
  handlers_eq := by
    rw [Loggers.get_set_self]
    exact ⟨_, rfl, rfl, rfl⟩
  get_other := fun _ hother => Loggers.get_set_of_ne (mt loggerKey_eq_iff.1 hother) ls _

/-- What becomes of all loggers when one is configured, after whatever history
and with whatever handlers at its start. With a level that there is, the request
is done in full; with one that there is not, it fails and all loggers are as they
were. So a logger is at all times as the last request that settled it has left
it, or as at the start if none has. -/
theorem configure_exact (start : Loggers) (history : List Request) :
    (∀ (r : Request) (n : Int), levelNamed r.level = .ok n →
        ∃ next, r.run (start.after history) = (.ok (), next) ∧
          r.Done n (start.after history) next) ∧
      (∀ (r : Request) (e : UnknownLevel), levelNamed r.level = .error e →
        r.run (start.after history) = (.error ⟨r.level⟩, start.after history)) ∧
      (∀ (before : List Request) (r : Request) (after : List Request) (n : Int) (name : String),
        history = before ++ r :: after → levelNamed r.level = .ok n → SameLogger name r.logger →
          (∀ q ∈ after, ¬ q.Settles name) →
            (start.after history).get name = r.configured n) ∧
      ∀ name, (∀ q ∈ history, ¬ q.Settles name) →
        (start.after history).get name = start.get name := by
  refine ⟨?_, ?_, ?_, ?_⟩
  · intro r n hlevel
    exact ⟨_, Request.run_of_level hlevel _, r.done_set n _⟩
  · intro r e hlevel
    rw [Request.run_of_unknown hlevel, eq_of_levelNamed_eq_error hlevel]
  · intro before r after n name hsplit hlevel hsame hafter
    have hrun : start.after history = ((r.run (start.after before)).2).after after := by
      rw [hsplit, Loggers.after, List.foldl_append]
      rfl
    rw [hrun, Loggers.get_after_of_not_settles hafter, Request.run_of_level hlevel,
      Loggers.get_congr hsame]
    exact Loggers.get_set_self _ _ _
  · intro name hnone
    exact Loggers.get_after_of_not_settles hnone start

/-- Levels are told by capital letters, so the second request fails; the logger
keeps what the first one gave it in place of its two handlers. -/
example :
    let start : Loggers := ⟨fun _ => ⟨5, [{}, {}]⟩⟩
    let ls := start.after [⟨"", "WARN", true⟩, ⟨"root", "debug", false⟩]
    ls.get "root" = ⟨30, [⟨30, .coloured⟩]⟩ ∧ ls.get "auth" = ⟨5, [{}, {}]⟩ := by
  decide

end AuthKeyspace.Log
