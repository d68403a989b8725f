import SimIdentity.Proofs.Progress

/-!
# What subscribers hear

A signal carries no value. Whoever hears it reads the identity that comes with it, and whoever
hears nothing believes that nothing changed. So the signals have to be complete, and what comes
with them has to be up to date, or a subscriber is left with an identity that is not the
tracker's.

## What is proved

* `perform_delivers`: each call sends every signal at most once and in the order of the parts,
  one for each part that changed, and all of them with the identity that the call ends with.
* `subscribers_stay_current`: so a subscriber that copies what it is told holds the tracker's
  identity after every call of every run.
-/

namespace SimIdentity

/-- What a subscriber holds that copies the identity it is told with each signal. -/
def follow (held : Identity) (news : List Notification) : Identity :=
  news.foldl (fun _ notification => notification.identity) held

theorem follow_append (held : Identity) (news news' : List Notification) :
    follow held (news ++ news') = follow (follow held news) news' := by
  simp only [follow, List.foldl_append]

/-- Whoever is told one identity only, and is told it at all, holds it. -/
theorem follow_of_forall {identity : Identity} {news : List Notification} (hne : news ≠ [])
    (h : ∀ notification ∈ news, notification.identity = identity) (held : Identity) :
    follow held news = identity := by
  induction news generalizing held with
  | nil => exact absurd rfl hne
  | cons head rest ih =>
    have hhead : head.identity = identity := h head List.mem_cons_self
    by_cases hrest : rest = []
    · subst hrest
      exact hhead
    · exact ih hrest (fun n hn => h n (List.mem_cons_of_mem _ hn)) head.identity

/-- Two identities of one modem are equal if no part differs. -/
theorem Identity.eq_of_part {a b : Identity} (hpath : a.path = b.path)
    (hpart : ∀ signal, a.part signal = b.part signal) : a = b := by
  have hiccid := hpart .iccid
  have himsi := hpart .imsi
  have hspn := hpart .spn
  cases a
  cases b
  simp only [Identity.part] at hiccid himsi hspn
  subst hpath hiccid himsi hspn
  rfl

variable {σ : Type}

/-- From `run` to `after`, subscribers were told `news`, and told enough. -/
structure Delivers (run after : Run σ) (news : List Notification) : Prop where
  /-- The news were sent, and nothing else. -/
  sent_eq : after.sent = run.sent ++ news
  /-- Each signal comes at most once, and they come in this order. -/
  in_order : (news.map (·.signal)).Sublist [.iccid, .imsi, .spn]
  /-- Every part that changed has its signal among them. -/
  complete : ∀ signal, after.identity.part signal ≠ run.identity.part signal →
    ∃ notification ∈ news, notification.signal = signal
  /-- Each comes with the identity as it is in the end. -/
  current : ∀ notification ∈ news, notification.identity = after.identity
  /-- It is the identity of the same modem. -/
  path_eq : after.identity.path = run.identity.path

namespace Delivers

variable {run after : Run σ} {news : List Notification}

/-- A subscriber that held the identity before holds it after the news. -/
theorem follow_eq (h : Delivers run after news) : follow run.identity news = after.identity := by
  by_cases hnews : news = []
  · subst hnews
    refine Identity.eq_of_part h.path_eq.symm fun signal => ?_
    refine Decidable.byContradiction fun hpart => ?_
    obtain ⟨_, hmem, -⟩ := h.complete signal (Ne.symm hpart)
    exact absurd hmem List.not_mem_nil
  · exact follow_of_forall hnews h.current _

/-- Who listens hears of a part that changed, and what it is now. -/
theorem mem_of_part (h : Delivers run after news) {signal : Signal}
    (hpart : after.identity.part signal ≠ run.identity.part signal) :
    ⟨signal, after.identity⟩ ∈ news := by
  obtain ⟨⟨other, identity⟩, hmem, hsignal⟩ := h.complete signal hpart
  obtain rfl : other = signal := hsignal
  obtain rfl : identity = after.identity := h.current _ hmem
  exact hmem

end Delivers

variable [StringStore σ]

/-- An announcement delivers all that became due since the call began. -/
theorem Progress.delivers {cfg : Config} {run later : Run σ} (h : Progress cfg none run later) :
    ∃ news, Delivers run later.announce news := by
  refine ⟨later.due.toList.map fun signal => { signal, identity := later.identity }, ?_⟩
  refine ⟨?_, ?_, ?_, ?_, h.path_eq⟩
  · rw [← h.sent_eq]; rfl
  · rw [List.map_map]
    show (later.due.toList.map id).Sublist Signal.all
    rw [List.map_id]
    exact List.filter_sublist
  · intro signal hchange
    have hdue : signal ∈ later.due := h.mem_due (Option.some_ne_none _) (.inr hchange)
    exact ⟨_, List.mem_map_of_mem (SignalSet.mem_toList.2 hdue), rfl⟩
  · intro notification hmem
    obtain ⟨_, -, rfl⟩ := List.mem_map.1 hmem
    rfl

theorem perform_delivers (cfg : Config) (modem : Modem) (call : Call) (run : Run σ) :
    ∃ news, Delivers run (run.perform cfg modem call) news := by
  obtain ⟨later, hprogress, hperform⟩ := Run.perform_eq_announce cfg modem call run
  rw [hperform]
  exact hprogress.delivers

/-- Over any number of calls a subscriber follows the tracker. -/
theorem follow_performAll (cfg : Config) (calls : List (Modem × Call)) (run : Run σ) :
    ∃ news, (run.performAll cfg calls).sent = run.sent ++ news ∧
      follow run.identity news = (run.performAll cfg calls).identity := by
  induction calls generalizing run with
  | nil => exact ⟨[], (List.append_nil _).symm, rfl⟩
  | cons head rest ih =>
    obtain ⟨modem, call⟩ := head
    obtain ⟨first, hfirst⟩ := perform_delivers cfg modem call run
    obtain ⟨later, hsent, hfollow⟩ := ih (run.perform cfg modem call)
    refine ⟨first ++ later, ?_, ?_⟩
    · rw [Run.performAll_cons, hsent, hfirst.sent_eq, List.append_assoc]
    · rw [follow_append, hfirst.follow_eq, hfollow, Run.performAll_cons]

/-- **Subscribers stay current.** Whatever the stores answer and whatever state a tracker is in, a
call sends a selection of the three signals in their order, among them one for each part that
changed, and each with the identity as it is when the call ends. Hence a subscriber that holds
the tracker's identity at some time, and copies it whenever it is told, holds it after any
calls. -/
theorem subscribers_stay_current (cfg : Config) (run : Run σ) :
    (∀ modem call, ∃ news,
        (run.perform cfg modem call).sent = run.sent ++ news ∧
        (news.map (·.signal)).Sublist [.iccid, .imsi, .spn] ∧
        (∀ signal,
          (run.perform cfg modem call).identity.part signal ≠ run.identity.part signal →
            ∃ notification ∈ news, notification.signal = signal) ∧
        ∀ notification ∈ news,
          notification.identity = (run.perform cfg modem call).identity) ∧
      ∀ calls, ∃ news,
        (run.performAll cfg calls).sent = run.sent ++ news ∧
        follow run.identity news = (run.performAll cfg calls).identity := by
  refine ⟨fun modem call => ?_, fun calls => follow_performAll cfg calls run⟩
  obtain ⟨news, h⟩ := perform_delivers cfg modem call run
  exact ⟨news, h.sent_eq, h.in_order, h.complete, h.current⟩

end SimIdentity
