import TreeSitterCli.Paths.Events

/-!
What a resolution keeps. `incorporate_path` pushes on a positive event and removes the
earliest copy on a negative one, so the copies of one path behave as a queue. The copies
left are the latest ones, and there are as many as a counter that rises at each positive
event of the path and falls, not below zero, at each negative one. `keepLast` states this
without the list operations, and `replay_eq_keepLast` shows that the replay computes it.

The reference with one copy per path, placed at its last positive event, is `lastWriteWins`.
It agrees with the code only while no path is pushed a second time before it is removed.
-/

set_option autoImplicit false
set_option relaxedAutoImplicit false

namespace TreeSitterCli.Paths.Resolution

open TreeSitterCli.Paths.CollectPaths
open TreeSitterCli.Paths.Events

def positivePaths (events : List Incorporation) : List String :=
  (events.filter (·.positive)).map (·.path)

/-- The counter of `p`: one up at each positive event of `p`, one down, but not below zero,
at each negative event of `p`. -/
def counter (p : String) (events : List Incorporation) : Nat :=
  events.foldl (fun n e => if e.path = p then (if e.positive then n + 1 else n - 1) else n) 0

/-- The entries of `ps` with fewer than `c p` later copies of their own path `p`: the last
`c p` copies of each path, in their order in `ps`. -/
def keepLast (c : String → Nat) : List String → List String
  | [] => []
  | p :: ps => if ps.count p < c p then p :: keepLast c ps else keepLast c ps

/-- The last-write-wins-by-append reference: the paths whose last event is positive, each
once, at the position of that last event. -/
def lastWriteWins : List Incorporation → List String
  | [] => []
  | e :: events =>
      if e.positive ∧ e.path ∉ events.map (·.path) then e.path :: lastWriteWins events
      else lastWriteWins events

private theorem positivePaths_append_singleton (events : List Incorporation) (e : Incorporation) :
    positivePaths (events ++ [e]) = positivePaths events ++ if e.positive then [e.path] else [] := by
  cases h : e.positive <;> simp [positivePaths, h]

private theorem counter_append_singleton (p : String) (events : List Incorporation)
    (e : Incorporation) :
    counter p (events ++ [e]) =
      if e.path = p then (if e.positive then counter p events + 1 else counter p events - 1)
      else counter p events := by
  simp [counter, List.foldl_append]

theorem counter_le_count (p : String) (events : List Incorporation) :
    counter p events ≤ (positivePaths events).count p := by
  induction events using List.reverseRecOn with
  | nil => simp [counter, positivePaths]
  | append_singleton events e ih =>
      rw [counter_append_singleton, positivePaths_append_singleton, List.count_append]
      rcases e with ⟨_ | _, q⟩ <;> by_cases hq : q = p <;> simp [hq] <;> omega

/-! ### `keepLast` under the two list operations -/

private theorem keepLast_append_singleton (c : String → Nat) (ps : List String) (q : String) :
    keepLast c (ps ++ [q]) =
      keepLast (fun p => c p - if p = q then 1 else 0) ps ++ (if 0 < c q then [q] else []) := by
  induction ps with
  | nil => simp [keepLast]
  | cons x ps ih =>
      have later : (ps ++ [q]).count x < c x ↔ ps.count x < c x - if x = q then 1 else 0 := by
        by_cases h : x = q
        · subst h
          simp [List.count_append]
          omega
        · simp [List.count_append, List.count_singleton, h, Ne.symm h]
      rw [List.cons_append, keepLast, keepLast, ih]
      simp only [later]
      split_ifs <;> simp

private theorem keepLast_congr {c d : String → Nat} {ps : List String}
    (h : ∀ p, min (c p) (ps.count p) = min (d p) (ps.count p)) : keepLast c ps = keepLast d ps := by
  induction ps with
  | nil => rfl
  | cons x ps ih =>
      have same : ps.count x < c x ↔ ps.count x < d x := by
        have hx := h x
        simp only [List.count_cons_self] at hx
        omega
      have rest : ∀ p, min (c p) (ps.count p) = min (d p) (ps.count p) := by
        intro p
        have hp := h p
        have fewer : ps.count p ≤ (x :: ps).count p := (List.sublist_cons_self x ps).count_le p
        omega
      rw [keepLast, keepLast, ih rest]
      simp only [same]

private theorem erase_keepLast (c : String → Nat) (ps : List String) (q : String)
    (bound : c q ≤ ps.count q) :
    (keepLast c ps).erase q = keepLast (fun p => c p - if p = q then 1 else 0) ps := by
  induction ps with
  | nil => rfl
  | cons x ps ih =>
      by_cases hx : x = q
      · subst hx
        simp only [List.count_cons_self] at bound
        have gone : ¬ ps.count x < c x - (if x = x then 1 else 0) := by simp; omega
        by_cases kept : ps.count x < c x
        · have drop : keepLast (fun p => c p - if p = x then 1 else 0) ps = keepLast c ps := by
            apply keepLast_congr
            intro p
            by_cases hp : p = x
            · subst hp
              simp
              omega
            · simp [hp]
          rw [keepLast, keepLast, if_pos kept, if_neg gone, drop]
          simp
        · rw [keepLast, keepLast, if_neg kept, if_neg gone, ih (by omega)]
      · have rest := ih (by simpa [List.count_cons, hx] using bound)
        rw [keepLast, keepLast]
        simp only [hx, if_false, Nat.sub_zero]
        split_ifs
        · simp [List.erase_cons, hx, rest]
        · exact rest

/-! ### The replay refines the counter model -/

theorem replay_eq_keepLast (events : List Incorporation) :
    replay [] events = keepLast (fun p => counter p events) (positivePaths events) := by
  induction events using List.reverseRecOn with
  | nil => rfl
  | append_singleton events e ih =>
      rw [replay_append, ih, positivePaths_append_singleton]
      rcases e with ⟨_ | _, q⟩
      · have down : (fun p => counter p (events ++ [⟨false, q⟩])) =
            fun p => counter p events - if p = q then 1 else 0 := by
          funext p
          rw [counter_append_singleton]
          by_cases hp : q = p <;> simp [hp, eq_comm]
        simp only [replay_cons, replay_nil, incorporatePath_negative, Bool.false_eq_true,
          if_false, List.append_nil, down]
        exact erase_keepLast _ _ q (counter_le_count q events)
      · have up : (fun p => counter p (events ++ [⟨true, q⟩])) =
            fun p => counter p events + if p = q then 1 else 0 := by
          funext p
          rw [counter_append_singleton]
          by_cases hp : q = p <;> simp [hp, eq_comm]
        simp only [replay_cons, replay_nil, incorporatePath_positive, if_true, up,
          keepLast_append_singleton]
        simp

/-! ### Where the reference holds -/

/-- No positive event pushes a path whose counter is already positive, so at most one copy
of each path is ever in the list. -/
def PushesOnce (events : List Incorporation) : Prop :=
  ∀ n (_ : n < events.length), events[n].positive → counter events[n].path (events.take n) = 0

instance (events : List Incorporation) : Decidable (PushesOnce events) :=
  inferInstanceAs (Decidable (∀ n (_ : n < events.length), _))

private theorem pushesOnce_append_singleton {events : List Incorporation} {e : Incorporation} :
    PushesOnce (events ++ [e]) ↔ PushesOnce events ∧ (e.positive → counter e.path events = 0) := by
  constructor
  · intro once
    refine ⟨fun n h => ?_, fun positive => ?_⟩
    · have earlier := once n (by simp; omega)
      rwa [List.getElem_append_left h, List.take_append_of_le_length h.le] at earlier
    · have last := once events.length (by simp)
      simp only [List.getElem_append_right (le_refl _), Nat.sub_self, List.take_left] at last
      exact last positive
  · rintro ⟨once, fresh⟩ n h
    by_cases earlier : n < events.length
    · rw [List.getElem_append_left earlier, List.take_append_of_le_length earlier.le]
      exact once n earlier
    · have last : n = events.length := by simp at h; omega
      subst last
      simp only [List.getElem_append_right (le_refl _), Nat.sub_self, List.take_left]
      exact fresh

private theorem count_keepLast (c : String → Nat) (ps : List String) (p : String) :
    (keepLast c ps).count p = min (c p) (ps.count p) := by
  induction ps with
  | nil => simp [keepLast]
  | cons x ps ih =>
      rw [keepLast]
      by_cases hx : x = p
      · subst hx
        split_ifs <;> simp [ih] <;> omega
      · split_ifs <;> simp [ih, List.count_cons, hx]

private theorem count_replay (events : List Incorporation) (p : String) :
    (replay [] events).count p = counter p events := by
  rw [replay_eq_keepLast, count_keepLast]
  exact min_eq_left (counter_le_count p events)

private theorem mem_lastWriteWins {events : List Incorporation} {p : String}
    (h : p ∈ lastWriteWins events) : p ∈ events.map (·.path) := by
  induction events with
  | nil => cases h
  | cons e events ih =>
      rw [lastWriteWins] at h
      split_ifs at h
      · rcases List.mem_cons.mp h with rfl | h
        · exact List.mem_cons_self _ _
        · exact List.mem_cons_of_mem _ (ih h)
      · exact List.mem_cons_of_mem _ (ih h)

private theorem lastWriteWins_append_singleton (events : List Incorporation) (e : Incorporation) :
    lastWriteWins (events ++ [e]) =
      (lastWriteWins events).filter (· != e.path) ++ if e.positive then [e.path] else [] := by
  induction events with
  | nil => cases h : e.positive <;> simp [lastWriteWins, h]
  | cons x events ih =>
      rw [List.cons_append, lastWriteWins, lastWriteWins, ih]
      by_cases same : x.path = e.path
      · rw [if_neg (by simp [same])]
        split_ifs <;> simp [same]
      · have later : (x.positive ∧ x.path ∉ (events ++ [e]).map (·.path)) ↔
            (x.positive ∧ x.path ∉ events.map (·.path)) := by
          simp [same]
        simp only [later]
        split_ifs <;> simp [same]

private theorem lastWriteWins_nodup (events : List Incorporation) : (lastWriteWins events).Nodup := by
  induction events with
  | nil => exact List.nodup_nil
  | cons e events ih =>
      rw [lastWriteWins]
      split_ifs with keep
      · refine List.nodup_cons.mpr ⟨fun mem => keep.2 ?_, ih⟩
        exact mem_lastWriteWins mem
      · exact ih

theorem replay_eq_lastWriteWins {events : List Incorporation} (once : PushesOnce events) :
    replay [] events = lastWriteWins events := by
  induction events using List.reverseRecOn with
  | nil => rfl
  | append_singleton events e ih =>
      obtain ⟨once, fresh⟩ := pushesOnce_append_singleton.mp once
      have same := ih once
      have nodup : (replay [] events).Nodup := same ▸ lastWriteWins_nodup events
      rw [replay_append, lastWriteWins_append_singleton, ← same]
      rcases e with ⟨_ | _, q⟩
      · simp [nodup.erase_eq_filter]
      · have absent : q ∉ replay [] events := by
          rw [← List.count_eq_zero, count_replay]
          exact fresh rfl
        simp only [replay_cons, replay_nil, incorporatePath_positive, if_true]
        rw [List.filter_eq_self.mpr]
        intro p mem
        have other : p ≠ q := fun h => absent (h ▸ mem)
        simpa using other

/-- A successful resolution in specifier mode keeps, for each path `p`, the last `counter p`
positive events of `p`, in event order. While no path is pushed again before it is removed,
this is the reference. -/
theorem collectPaths_resolution {fs : FileSystem} {specs ps : List String}
    (h : collectPaths fs none (some specs) = .ok ps) :
    ps = keepLast (fun p => counter p (incorporationEvents fs specs))
        (positivePaths (incorporationEvents fs specs)) ∧
      (PushesOnce (incorporationEvents fs specs) →
        ps = lastWriteWins (incorporationEvents fs specs)) := by
  rw [collectPaths_eq_replay h]
  exact ⟨replay_eq_keepLast _, replay_eq_lastWriteWins⟩

theorem collectPaths_resolution_textFiles :
    collectPaths textFiles none (some ["*.txt", "!a.txt", "a.txt"]) = .ok ["b.txt", "a.txt"] ∧
      ["b.txt", "a.txt"] =
        keepLast (fun p => counter p (incorporationEvents textFiles ["*.txt", "!a.txt", "a.txt"]))
          (positivePaths (incorporationEvents textFiles ["*.txt", "!a.txt", "a.txt"])) ∧
      ["b.txt", "a.txt"] = lastWriteWins (incorporationEvents textFiles ["*.txt", "!a.txt", "a.txt"]) :=
  have run : collectPaths textFiles none (some ["*.txt", "!a.txt", "a.txt"]) =
      .ok ["b.txt", "a.txt"] := rfl
  ⟨run, (collectPaths_resolution run).1, (collectPaths_resolution run).2 (by decide)⟩

/-- A path named twice is kept twice, where the reference keeps it once. -/
theorem collectPaths_named_twice :
    collectPaths textFiles none (some ["a.txt", "a.txt"]) = .ok ["a.txt", "a.txt"] ∧
      lastWriteWins (incorporationEvents textFiles ["a.txt", "a.txt"]) = ["a.txt"] :=
  ⟨rfl, rfl⟩

end TreeSitterCli.Paths.Resolution
