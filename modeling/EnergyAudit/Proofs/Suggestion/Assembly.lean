import EnergyAudit.Proofs.Configuration.Order
import EnergyAudit.Proofs.Ledger.Operation
import EnergyAudit.Proofs.Suggestion.Installation

/-!
# Orchestrators from configurations

An orchestrator is made from a configuration slot by slot.  This ends at the first slot that repeats
one before it, and at the first whose provider cannot be made.  The slots before that one have been
dealt with by then: the providers in them are installed, and their limits are set.  So an
orchestrator that cannot be made leaves limits behind in the ledger, though neither windows nor
counts.

## Main definitions

* `SuggestionSettings.CanMake` — nothing stands in the way of the provider of a slot.
* `SuggestionSettings.limitSettings` — the limits that are set for the providers of some slots.
* `SuggestionSettings.installations` — the providers of some slots.
* `SuggestionSettings.lastLimit?` — the last limit that is set for a name.
* `Assembly.addEach` — what becomes of an orchestrator and a ledger slot by slot.
* `StopsAfter` — the slots that have been dealt with when an error is found.

## Main results

* `Orchestrator.add_cases` — what the adding of one provider can do.
* `Orchestrator.addAll_append` — slots that are all different are dealt with one after the other.
* `Orchestrator.ofSettings_of_canMake`, `Orchestrator.ofSettings_of_stopsAfter` — what is made of a
  configuration.
* `Orchestrator.failed_assembly_ledger` — **what a failure leaves behind in the ledger.**
* `Orchestrator.limit_left_by_failure` — a limit that is left behind.
* `Orchestrator.order_checks_agree` — **the two checks of an order agree.**
-/

namespace EnergyAudit

variable {π : Type}

/-! ### Slot by slot -/

namespace SuggestionSettings

variable {s : SuggestionSettings} {make : ProviderSettings → Except ProviderError π}

/-- Nothing stands in the way of the provider of a slot: there is none, or it can be made. -/
def CanMake (s : SuggestionSettings) (make : ProviderSettings → Except ProviderError π)
    (slot : Slot) : Prop :=
  ∀ p, s.provider? slot = some p → ∃ provider, make p = .ok provider

theorem canMake_or_exists_error (s : SuggestionSettings)
    (make : ProviderSettings → Except ProviderError π) (slot : Slot) :
    s.CanMake make slot ∨ ∃ p error, s.provider? slot = some p ∧ make p = .error error := by
  cases hp : s.provider? slot with
  | none =>
    left
    intro p hother
    rw [hp] at hother
    cases hother
  | some p =>
    cases hmake : make p with
    | error error => exact .inr ⟨p, error, rfl, hmake⟩
    | ok provider =>
      left
      intro q hq
      obtain rfl := Option.some.inj (hp.symm.trans hq)
      exact ⟨provider, hmake⟩

/-- The limits that are set for the providers of some slots. -/
def limitSettings (s : SuggestionSettings) (slots : List Slot) : List LedgerOperation :=
  (slots.filterMap s.provider?).map fun p => .setLimit p.name p.callsPerMinute?

theorem limitSettings_cons (s : SuggestionSettings) (slot : Slot) (slots : List Slot) :
    s.limitSettings (slot :: slots) = s.limitSettings [slot] ++ s.limitSettings slots := by
  cases h : s.provider? slot <;> simp [limitSettings, h]

theorem limitSettings_of_provider?_eq_none {slots : List Slot}
    (h : ∀ slot ∈ slots, s.provider? slot = none) : s.limitSettings slots = [] := by
  rw [limitSettings, List.filterMap_eq_nil_iff.mpr h, List.map_nil]

/-- The provider of a slot in its place. -/
def installation? (s : SuggestionSettings) (make : ProviderSettings → Except ProviderError π)
    (slot : Slot) : Option (Installation π) :=
  (s.provider? slot).bind fun p =>
    (make p).toOption.map fun provider => ⟨slot, p.name, provider⟩

/-- The providers of some slots in their places. -/
def installations (s : SuggestionSettings) (make : ProviderSettings → Except ProviderError π)
    (slots : List Slot) : List (Installation π) :=
  slots.filterMap (s.installation? make)

theorem installations_cons (s : SuggestionSettings)
    (make : ProviderSettings → Except ProviderError π) (slot : Slot) (slots : List Slot) :
    s.installations make (slot :: slots) =
      (s.installation? make slot).toList ++ s.installations make slots := by
  cases h : s.installation? make slot <;> simp [installations, h]

theorem exists_of_installation?_eq_some {slot : Slot} {i : Installation π}
    (h : s.installation? make slot = some i) :
    i.slot = slot ∧ ∃ p, s.provider? slot = some p ∧ i.name = p.name := by
  obtain ⟨p, hp, hmade⟩ := Option.bind_eq_some_iff.mp h
  obtain ⟨provider, -, rfl⟩ := Option.map_eq_some_iff.mp hmade
  exact ⟨rfl, p, hp, rfl⟩

theorem isSome_installation? {slot : Slot} (h : s.CanMake make slot) :
    (s.installation? make slot).isSome = (s.provider? slot).isSome := by
  unfold installation?
  cases hp : s.provider? slot with
  | none => rfl
  | some p =>
    obtain ⟨provider, hmake⟩ := h p hp
    simp [hmake, Except.toOption]

/-- The slots of those providers are the slots that have one. -/
theorem map_slot_installations {slots : List Slot} (h : ∀ slot ∈ slots, s.CanMake make slot) :
    (s.installations make slots).map (·.slot) =
      slots.filter fun slot => (s.provider? slot).isSome := by
  induction slots with
  | nil => rfl
  | cons slot slots ih =>
    have hslot := isSome_installation? (h slot List.mem_cons_self)
    rw [installations_cons, List.map_append, ih fun other hother =>
      h other (List.mem_cons_of_mem _ hother), List.filter_cons, ← hslot]
    cases hi : s.installation? make slot with
    | none => rfl
    | some i =>
      obtain ⟨rfl, -⟩ := exists_of_installation?_eq_some hi
      rfl

theorem mem_installations {slots : List Slot} {i : Installation π}
    (h : i ∈ s.installations make slots) :
    ∃ p, s.provider? i.slot = some p ∧ i.name = p.name := by
  obtain ⟨slot, -, hi⟩ := List.mem_filterMap.mp h
  obtain ⟨rfl, p, hp, hname⟩ := exists_of_installation?_eq_some hi
  exact ⟨p, hp, hname⟩

end SuggestionSettings

namespace Orchestrator

variable {make : ProviderSettings → Except ProviderError π} {s : SuggestionSettings}
  {ledger : Ledger} {tried : List Slot} {error : AssemblyError}

/-- What the adding of one provider can do. -/
theorem add_cases (a : Assembly π) (make : ProviderSettings → Except ProviderError π)
    (s : SuggestionSettings) (slot : Slot) :
    (s.provider? slot = none ∧
      a.add make s slot = (none, { a with log := a.log ++ [unconfiguredLine slot] })) ∨
    (∃ p provider, s.provider? slot = some p ∧ make p = .ok provider ∧
      a.add make s slot = (none, a.install slot p provider)) ∨
    (∃ p error, s.provider? slot = some p ∧ make p = .error error ∧
      a.add make s slot = (some (.unusableSlot slot error), a)) := by
  unfold Assembly.add
  cases hp : s.provider? slot with
  | none => exact .inl ⟨rfl, rfl⟩
  | some p =>
    dsimp only
    cases hmake : make p with
    | error error => exact .inr (.inr ⟨p, error, rfl, hmake, rfl⟩)
    | ok provider => exact .inr (.inl ⟨p, provider, rfl, hmake, rfl⟩)

theorem add_fst_of_canMake {slot : Slot} (a : Assembly π) (h : s.CanMake make slot) :
    (a.add make s slot).1 = none := by
  obtain ⟨-, hadd⟩ | ⟨p, provider, -, -, hadd⟩ | ⟨p, error, hp, herror, -⟩ :=
    add_cases a make s slot
  · rw [hadd]
  · rw [hadd]
  · obtain ⟨provider, hmake⟩ := h p hp
    rw [hmake] at herror
    cases herror

theorem ledger_add {slot : Slot} (a : Assembly π) (h : s.CanMake make slot) :
    (a.add make s slot).2.ledger = a.ledger.after (s.limitSettings [slot]) := by
  have hmade := add_fst_of_canMake a h
  obtain ⟨hp, hadd⟩ | ⟨p, provider, hp, -, hadd⟩ | ⟨p, error, -, -, hadd⟩ := add_cases a make s slot
  · simp [hadd, SuggestionSettings.limitSettings, hp]
  · simp [hadd, SuggestionSettings.limitSettings, hp, LedgerOperation.run, Assembly.install]
  · rw [hadd] at hmade
    cases hmade

theorem installations_add {a : Assembly π} {slot : Slot} (h : slot ∉ a.orchestrator.slots) :
    (a.add make s slot).2.orchestrator.installations =
      a.orchestrator.installations ++ (s.installation? make slot).toList := by
  unfold SuggestionSettings.installation?
  obtain ⟨hp, hadd⟩ | ⟨p, provider, hp, hmake, hadd⟩ | ⟨p, error, hp, hmake, hadd⟩ :=
    add_cases a make s slot
  · rw [hadd, hp, Option.bind_none, Option.toList_none, List.append_nil]
  · rw [hadd, hp, Option.bind_some, hmake]
    exact installIn_of_not_mem h
  · rw [hadd, hp, Option.bind_some, hmake]
    exact (List.append_nil _).symm

/-- What becomes of an orchestrator and a ledger when the providers of slots are added. -/
def Assembly.addEach (a : Assembly π) (make : ProviderSettings → Except ProviderError π)
    (s : SuggestionSettings) (slots : List Slot) : Assembly π :=
  slots.foldl (fun a slot => (a.add make s slot).2) a

theorem ledger_addEach {slots : List Slot} (h : ∀ slot ∈ slots, s.CanMake make slot) :
    ∀ {a : Assembly π},
      (a.addEach make s slots).ledger = a.ledger.after (s.limitSettings slots) := by
  induction slots with
  | nil => intro a; rfl
  | cons slot slots ih =>
    intro a
    rw [s.limitSettings_cons, Ledger.after_append, ← ledger_add a (h slot List.mem_cons_self)]
    exact ih fun other hother => h other (List.mem_cons_of_mem _ hother)

/-- The providers of slots that are free and all different are installed in the order of the
slots. -/
theorem installations_addEach {listed : List Slot} : ∀ {a : Assembly π}, listed.Nodup →
    (∀ slot ∈ listed, slot ∉ a.orchestrator.slots) →
      (a.addEach make s listed).orchestrator.installations =
        a.orchestrator.installations ++ s.installations make listed := by
  induction listed with
  | nil => intro a _ _; exact (List.append_nil _).symm
  | cons slot listed ih =>
    intro a hnodup hfree
    obtain ⟨hslot, hnodup⟩ := List.nodup_cons.mp hnodup
    have hadd : (a.add make s slot).2.orchestrator.installations = _ :=
      installations_add (hfree slot List.mem_cons_self)
    have hrest : ∀ other ∈ listed, other ∉ (a.add make s slot).2.orchestrator.slots := by
      intro other hother
      rw [slots, hadd, List.map_append, List.mem_append, not_or]
      refine ⟨hfree other (List.mem_cons_of_mem _ hother), ?_⟩
      -- Only the slot that has just been filled is new.
      intro hnew
      obtain ⟨i, hi, rfl⟩ := List.mem_map.mp hnew
      obtain ⟨rfl, -⟩ :=
        SuggestionSettings.exists_of_installation?_eq_some (Option.mem_toList.mp hi)
      exact hslot hother
    rw [s.installations_cons, ← List.append_assoc, ← hadd]
    exact ih hnodup hrest

/-- Slots that are all different are dealt with one after the other if all their providers can be
made. -/
theorem addAll_append {slots rest : List Slot} : ∀ {before : List Slot} {a : Assembly π},
    (before ++ slots).Nodup → (∀ slot ∈ slots, s.CanMake make slot) →
      Assembly.addAll make s before (slots ++ rest) a =
        Assembly.addAll make s (before ++ slots) rest (a.addEach make s slots) := by
  induction slots with
  | nil => intro before a _ _; rw [List.append_nil]; rfl
  | cons slot slots ih =>
    intro before a h hmake
    rw [List.append_cons] at h ⊢
    have hslot : slot ∉ before := fun hmem =>
      List.disjoint_of_nodup_append h.of_append_left hmem List.mem_cons_self
    have hadd : a.add make s slot = (none, (a.add make s slot).2) :=
      Prod.ext (add_fst_of_canMake a (hmake slot List.mem_cons_self)) rfl
    rw [List.cons_append, Assembly.addAll, if_neg (by simpa using hslot), hadd]
    exact ih h fun other hother => hmake other (List.mem_cons_of_mem _ hother)

/-! ### What is made of a configuration -/

/-- The slots that have been dealt with when an error is found: they are all different, and nothing
stood in the way of their providers. -/
inductive StopsAfter (make : ProviderSettings → Except ProviderError π) (s : SuggestionSettings) :
    List Slot → AssemblyError → Prop where
  | repeatedSlot {tried after : List Slot} {slot : Slot} (horder : s.order = tried ++ slot :: after)
      (hnodup : tried.Nodup) (hmake : ∀ other ∈ tried, s.CanMake make other)
      (hslot : slot ∈ tried) :
      StopsAfter make s tried (.repeatedSlot slot)
  | unusableSlot {tried after : List Slot} {slot : Slot} {p : ProviderSettings}
      {error : ProviderError} (horder : s.order = tried ++ slot :: after) (hnodup : tried.Nodup)
      (hmake : ∀ other ∈ tried, s.CanMake make other) (hslot : slot ∉ tried)
      (hp : s.provider? slot = some p) (herror : make p = .error error) :
      StopsAfter make s tried (.unusableSlot slot error)
  | noProviders (hnodup : s.order.Nodup) (hnone : ∀ slot ∈ s.order, s.provider? slot = none) :
      StopsAfter make s s.order .noProviders

namespace StopsAfter

theorem canMake (h : StopsAfter make s tried error) : ∀ slot ∈ tried, s.CanMake make slot := by
  cases h with
  | repeatedSlot _ _ hmake _ | unusableSlot _ _ hmake _ _ _ => exact hmake
  | noProviders _ hnone =>
    intro slot hslot p hp
    rw [hnone slot hslot] at hp
    cases hp

end StopsAfter

/-- Either all slots of an order can be dealt with, or there is a first one that cannot. -/
theorem canMakeAll_or_stopsAfter (make : ProviderSettings → Except ProviderError π)
    (s : SuggestionSettings) :
    (s.order.Nodup ∧ ∀ slot ∈ s.order, s.CanMake make slot) ∨
      ∃ tried error, StopsAfter make s tried error := by
  have hsplit : ∀ order : List Slot, (order.Nodup ∧ ∀ slot ∈ order, s.CanMake make slot) ∨
      ∃ tried slot after, order = tried ++ slot :: after ∧ tried.Nodup ∧
        (∀ other ∈ tried, s.CanMake make other) ∧ (slot ∈ tried ∨ ¬ s.CanMake make slot) := by
    intro order
    induction order using List.reverseRecOn with
    | nil => exact .inl ⟨List.nodup_nil, fun slot hslot => (List.not_mem_nil hslot).elim⟩
    | append_singleton order last ih =>
      rcases ih with ⟨hnodup, hmake⟩ | ⟨tried, slot, after, rfl, htried⟩
      · by_cases hlast : last ∉ order ∧ s.CanMake make last
        · refine .inl ⟨List.concat_eq_append ▸ hnodup.concat hlast.1, fun slot hslot => ?_⟩
          rcases List.mem_append.mp hslot with hslot | hslot
          · exact hmake slot hslot
          · rw [List.mem_singleton.mp hslot]
            exact hlast.2
        · rw [not_and_or, not_not] at hlast
          exact .inr ⟨order, last, [], rfl, hnodup, hmake, hlast⟩
      · exact .inr ⟨tried, slot, after ++ [last], by simp, htried⟩
  rcases hsplit s.order with hall | ⟨tried, slot, after, horder, hnodup, hmake, hstop⟩
  · exact .inl hall
  · right
    by_cases hslot : slot ∈ tried
    · exact ⟨tried, _, .repeatedSlot horder hnodup hmake hslot⟩
    · obtain ⟨p, error, hp, herror⟩ :=
        (s.canMake_or_exists_error make slot).resolve_left (hstop.resolve_left hslot)
      exact ⟨tried, _, .unusableSlot horder hnodup hmake hslot hp herror⟩

/-- The orchestrator without providers, with which the making of one starts. -/
def Assembly.start (s : SuggestionSettings) (ledger : Ledger) : Assembly π :=
  ⟨empty s.timeout, ledger, []⟩

theorem installations_addEach_start {listed : List Slot} (h : listed.Nodup) :
    ((Assembly.start s ledger).addEach make s listed).orchestrator.installations =
      s.installations make listed :=
  installations_addEach h fun _ _ => List.not_mem_nil

/-- The slots that have been dealt with can be skipped. -/
theorem addAll_start {slots rest : List Slot} (hnodup : slots.Nodup)
    (hmake : ∀ slot ∈ slots, s.CanMake make slot) :
    Assembly.addAll make s [] (slots ++ rest) (.start s ledger) =
      Assembly.addAll make s slots rest ((Assembly.start s ledger).addEach make s slots) := by
  rw [← List.nil_append slots] at hnodup
  exact addAll_append hnodup hmake

theorem ofSettings_of_canMake (hnodup : s.order.Nodup)
    (hmake : ∀ slot ∈ s.order, s.CanMake make slot) :
    ofSettings make s ledger =
      (if (s.installations make s.order).isEmpty then some .noProviders else none,
        (Assembly.start s ledger).addEach make s s.order) := by
  have hall : Assembly.addAll make s [] s.order ⟨empty s.timeout, ledger, []⟩ =
      (none, (Assembly.start s ledger).addEach make s s.order) := by
    have hend : Assembly.addAll make s [] (s.order ++ []) (.start s ledger) = _ :=
      addAll_start hnodup hmake
    rwa [List.append_nil] at hend
  rw [ofSettings, hall]
  dsimp only
  rw [installations_addEach_start hnodup]

theorem ofSettings_of_stopsAfter (h : StopsAfter make s tried error) :
    ofSettings make s ledger = (some error, (Assembly.start s ledger).addEach make s tried) := by
  have hmake := h.canMake
  cases h with
  | @repeatedSlot tried after slot horder hnodup _ hslot =>
    have hstop : Assembly.addAll make s [] s.order ⟨empty s.timeout, ledger, []⟩ =
        (some (.repeatedSlot slot), (Assembly.start s ledger).addEach make s tried) := by
      rw [horder]
      exact (addAll_start hnodup hmake).trans (if_pos (List.contains_iff_mem.mpr hslot))
    rw [ofSettings, hstop]
  | @unusableSlot tried after slot p error horder hnodup _ hslot hp herror =>
    have hstop : Assembly.addAll make s [] s.order ⟨empty s.timeout, ledger, []⟩ =
        (some (.unusableSlot slot error), (Assembly.start s ledger).addEach make s tried) := by
      rw [horder]
      refine (addAll_start hnodup hmake).trans ?_
      rw [Assembly.addAll, if_neg (by simpa using hslot), Assembly.add, hp]
      dsimp only
      rw [herror]
    rw [ofSettings, hstop]
  | noProviders hnodup hnone =>
    have hempty : s.installations make s.order = [] :=
      List.filterMap_eq_nil_iff.mpr fun slot hslot => by
        rw [SuggestionSettings.installation?, hnone slot hslot, Option.bind_none]
    rw [ofSettings_of_canMake hnodup hmake, hempty]
    rfl

/-- **When no orchestrator is made.**  An error is found just if the making of an orchestrator stops
with it. -/
theorem ofSettings_fst_eq_some_iff :
    (ofSettings make s ledger).1 = some error ↔ ∃ tried, StopsAfter make s tried error := by
  constructor
  · intro h
    rcases canMakeAll_or_stopsAfter make s with ⟨hnodup, hmake⟩ | ⟨tried, found, hstop⟩
    · rw [ofSettings_of_canMake hnodup hmake] at h
      obtain ⟨hempty, herror⟩ := Option.ite_none_right_eq_some.mp h
      obtain rfl := Option.some.inj herror
      refine ⟨s.order, .noProviders hnodup fun slot hslot => ?_⟩
      rw [List.isEmpty_iff, SuggestionSettings.installations, List.filterMap_eq_nil_iff] at hempty
      have hnone := SuggestionSettings.isSome_installation? (hmake slot hslot)
      rw [hempty slot hslot] at hnone
      exact Option.isNone_iff_eq_none.mp (by simpa using hnone.symm)
    · rw [ofSettings_of_stopsAfter hstop] at h
      exact ⟨tried, Option.some.inj h ▸ hstop⟩
  · rintro ⟨tried, hstop⟩
    rw [ofSettings_of_stopsAfter hstop]

end Orchestrator

/-! ### What a failure leaves behind -/

namespace SuggestionSettings

/-- The last limit that is set under a name for the providers of some slots. -/
def lastLimit? (s : SuggestionSettings) (slots : List Slot) (name : String) : Option (Option Nat) :=
  ((slots.filterMap s.provider?).filter (·.name = name)).getLast?.map (·.callsPerMinute?)

theorem limitFor?_limitSettings (s : SuggestionSettings) (slots : List Slot) (name : String) :
    ((s.limitSettings slots).filterMap (LedgerOperation.limitFor? name)).getLast? =
      s.lastLimit? slots name := by
  have hlimits : ∀ ps : List ProviderSettings,
      (ps.map fun p => LedgerOperation.setLimit p.name p.callsPerMinute?).filterMap
        (LedgerOperation.limitFor? name) =
          (ps.filter (·.name = name)).map (·.callsPerMinute?) := by
    intro ps
    induction ps with
    | nil => rfl
    | cons p ps ih =>
      by_cases hname : p.name = name <;> simp [LedgerOperation.limitFor?, hname, ih]
  rw [limitSettings, hlimits, List.getLast?_map, lastLimit?]

theorem exists_of_lastLimit?_eq_some {s : SuggestionSettings} {slots : List Slot} {name : String}
    {limit : Option Nat} (h : s.lastLimit? slots name = some limit) :
    ∃ slot ∈ slots, ∃ p, s.provider? slot = some p ∧ p.name = name ∧ p.callsPerMinute? = limit := by
  obtain ⟨p, hlast, hlimit⟩ := Option.map_eq_some_iff.mp h
  obtain ⟨hmem, hname⟩ := List.mem_filter.mp (List.mem_of_getLast? hlast)
  obtain ⟨slot, hslot, hp⟩ := List.mem_filterMap.mp hmem
  exact ⟨slot, hslot, p, hp, of_decide_eq_true hname, hlimit⟩

end SuggestionSettings

/-- An account under a limit. -/
def Account.withLimit (a : Account) (limit : Option Nat) : Account := { a with limit }

theorem Account.withLimit_eq_self_iff {a : Account} {limit : Option Nat} :
    a.withLimit limit = a ↔ a.limit = limit := by
  obtain ⟨old, window, counts⟩ := a
  simp [withLimit, eq_comm]

/-- Settings of limits leave windows and counts as they are. -/
theorem Ledger.account_after_limitSettings (s : SuggestionSettings) (slots : List Slot) (l : Ledger)
    (name : String) : (l.after (s.limitSettings slots)).account name =
      (l.account name).withLimit ((s.lastLimit? slots name).getD (l.account name).limit) := by
  have hkept : ∀ (ps : List ProviderSettings) (l : Ledger), ∃ limit,
      (l.after (ps.map fun p => .setLimit p.name p.callsPerMinute?)).account name =
        (l.account name).withLimit limit := by
    intro ps
    induction ps with
    | nil => exact fun l => ⟨_, rfl⟩
    | cons p ps ih =>
      intro l
      obtain ⟨limit, hrest⟩ := ih (LedgerOperation.run l (.setLimit p.name p.callsPerMinute?))
      refine ⟨limit, hrest.trans ?_⟩
      rw [account_run]
      split <;> rfl
  obtain ⟨limit, hlimit⟩ := hkept (slots.filterMap s.provider?) l
  -- The limit that is kept is the one that was set last.
  have hlast : limit = (s.lastLimit? slots name).getD (l.account name).limit := by
    rw [← s.limitFor?_limitSettings, ← limit_after, SuggestionSettings.limitSettings, hlimit]
    rfl
  rw [SuggestionSettings.limitSettings, hlimit, hlast]

namespace Orchestrator

variable {make : ProviderSettings → Except ProviderError π} {s : SuggestionSettings}
  {ledger : Ledger} {error : AssemblyError} {a : Assembly π}

/-- The slots that have been dealt with are those whose limits have been set. -/
theorem exists_stopsAfter_of_error (h : ofSettings make s ledger = (some error, a)) :
    ∃ tried, StopsAfter make s tried error ∧ a.ledger = ledger.after (s.limitSettings tried) := by
  obtain ⟨tried, hstop⟩ := ofSettings_fst_eq_some_iff.mp (congrArg Prod.fst h)
  rw [ofSettings_of_stopsAfter hstop] at h
  obtain ⟨-, rfl⟩ := Prod.ext_iff.mp h
  exact ⟨tried, hstop, ledger_addEach hstop.canMake⟩

/-- **What a failure leaves behind in the ledger.**  If no orchestrator can be made of a
configuration, the windows and the counts of all providers are as before, and if no slot has a
provider, so are all limits.  But the slots before a repeated one, and those before one whose
provider cannot be made, have been dealt with: the last limit that is set under a name for one of
them stays.  So the ledger is left alone just if these limits were in force already. -/
theorem failed_assembly_ledger (make : ProviderSettings → Except ProviderError π)
    (s : SuggestionSettings) (ledger : Ledger) {error : AssemblyError} {a : Assembly π}
    (h : ofSettings make s ledger = (some error, a)) :
    (error = .noProviders → a.ledger = ledger) ∧
      ∃ tried, StopsAfter make s tried error ∧
        (∀ name, a.ledger.account name = (ledger.account name).withLimit
          ((s.lastLimit? tried name).getD (ledger.account name).limit)) ∧
        ((∀ name, a.ledger.account name = ledger.account name) ↔
          ∀ name limit, s.lastLimit? tried name = some limit →
            (ledger.account name).limit = limit) := by
  obtain ⟨tried, hstop, hledger⟩ := exists_stopsAfter_of_error h
  have haccount : ∀ name, a.ledger.account name = (ledger.account name).withLimit
      ((s.lastLimit? tried name).getD (ledger.account name).limit) := by
    rw [hledger]
    exact Ledger.account_after_limitSettings s tried ledger
  refine ⟨?_, tried, hstop, haccount, forall_congr' fun name => ?_⟩
  · rintro rfl
    obtain - | - | ⟨-, hnone⟩ := hstop
    rw [hledger, SuggestionSettings.limitSettings_of_provider?_eq_none hnone, Ledger.after_nil]
  · rw [haccount name, Account.withLimit_eq_self_iff]
    cases s.lastLimit? tried name <;> simp

end Orchestrator

/-- A provider of one name with some limit. -/
def ProviderSettings.shared (limit? : Option Nat) : ProviderSettings :=
  ⟨"shared", "http://localhost/v1", "m", none, none, none, limit?⟩

/-- The same slot twice, with a provider that has one call in any minute. -/
def SuggestionSettings.primaryTwice : SuggestionSettings :=
  ⟨1000, [.primary, .primary], some (.shared (some 1)), none⟩

/-- A provider with a limit in the first slot, and one without in the second. -/
def SuggestionSettings.limitedFirst : SuggestionSettings :=
  ⟨1000, [.primary, .secondary], some (.shared (some 1)), some (.shared none)⟩

namespace Orchestrator

/-- Only a provider with a limit can be made. -/
def makeLimited (p : ProviderSettings) : Except ProviderError Unit :=
  if p.callsPerMinute?.isSome then .ok () else .error (.network "builder error")

/-- A ledger in which the limit is in force already is left alone when a slot is repeated; the limit
of a first provider stays in a ledger without it when the second one cannot be made. -/
theorem failed_assembly_ledger_shared :
    let ledger := Ledger.empty.setLimit "shared" (some 1)
    let (repeated?, a) := ofSettings makeLimited .primaryTwice ledger
    let (unusable?, b) := ofSettings makeLimited .limitedFirst .empty
    repeated? = some (.repeatedSlot .primary) ∧
      (∀ name, a.ledger.account name = ledger.account name) ∧
      unusable? = some (.unusableSlot .secondary (.network "builder error")) ∧
      ¬ ∀ name, b.ledger.account name = Ledger.empty.account name := by
  intro ledger
  generalize hrepeated : ofSettings makeLimited .primaryTwice ledger = assembly
  generalize hunusable : ofSettings makeLimited .limitedFirst .empty = other
  obtain ⟨repeated?, a⟩ := assembly
  obtain ⟨unusable?, b⟩ := other
  obtain rfl : some (.repeatedSlot .primary) = repeated? := congrArg Prod.fst hrepeated
  obtain rfl : some (.unusableSlot .secondary (.network "builder error")) = unusable? :=
    congrArg Prod.fst hunusable
  obtain ⟨-, tried, -, -, hrepeatedAlone⟩ := failed_assembly_ledger makeLimited _ ledger hrepeated
  obtain ⟨-, before, hstop, -, hunusableAlone⟩ :=
    failed_assembly_ledger makeLimited _ .empty hunusable
  refine ⟨rfl, hrepeatedAlone.mpr fun name limit hlimit => ?_, rfl, fun halone => ?_⟩
  · -- Whatever slots have been dealt with, there is only this one limit to be set.
    obtain ⟨slot, -, p, hp, rfl, rfl⟩ := SuggestionSettings.exists_of_lastLimit?_eq_some hlimit
    cases slot with
    | primary =>
      obtain rfl := Option.some.inj hp
      simp [ledger, ProviderSettings.shared, Ledger.setLimit, Ledger.account_update]
    | secondary => cases hp
  · -- The slot before the second one is the first one.
    obtain - | ⟨horder, -, -, -, -, -⟩ | - := hstop
    obtain rfl : before = [.primary] := by
      rcases before with _ | ⟨slot, _ | ⟨other, rest⟩⟩ <;>
        simp_all [SuggestionSettings.limitedFirst]
    have hlimit := hunusableAlone.mp halone "shared" (some 1) rfl
    rw [Ledger.account_empty] at hlimit
    cases hlimit

/-- A limit is left behind: the first slot has been dealt with when it is found to be repeated. -/
theorem limit_left_by_failure :
    let a := (ofSettings (fun _ => .ok ()) SuggestionSettings.primaryTwice .empty).2
    (ofSettings (fun _ => .ok ()) SuggestionSettings.primaryTwice .empty).1 =
        some (.repeatedSlot .primary) ∧
      (Ledger.empty.account "shared").limit = none ∧
      (a.ledger.account "shared").limit = some 1 := by
  have hmake : ∀ slot ∈ [Slot.primary],
      SuggestionSettings.primaryTwice.CanMake (fun _ => .ok ()) slot := fun _ _ _ _ => ⟨(), rfl⟩
  have hassembly : ofSettings (fun _ => .ok ()) SuggestionSettings.primaryTwice .empty =
      (some (.repeatedSlot .primary), _) :=
    ofSettings_of_stopsAfter (.repeatedSlot (rfl : _ = [Slot.primary] ++ .primary :: [])
      (List.nodup_singleton _) hmake (List.mem_singleton.mpr rfl))
  refine ⟨congrArg Prod.fst hassembly, by rw [Ledger.account_empty], ?_⟩
  rw [hassembly, ledger_addEach hmake, Ledger.account_after_limitSettings]
  rfl

/-! ### The two checks of an order -/

variable {make : ProviderSettings → Except ProviderError π} {s : SuggestionSettings}
  {ledger : Ledger}

theorem ofSettings_fst_eq_repeatedSlot_iff (hmake : ∀ slot ∈ s.order, s.CanMake make slot)
    {slot : Slot} :
    (ofSettings make s ledger).1 = some (.repeatedSlot slot) ↔ IsFirstRepeated s.order slot := by
  rw [ofSettings_fst_eq_some_iff]
  constructor
  · rintro ⟨tried, ⟨horder, hnodup, -, hslot⟩⟩
    exact ⟨tried, _, horder, hnodup, hslot⟩
  · rintro ⟨tried, after, horder, hnodup, hslot⟩
    refine ⟨tried, .repeatedSlot horder hnodup (fun other hother => hmake other ?_) hslot⟩
    rw [horder]
    exact List.mem_append_left _ hother

theorem ofSettings_fst_eq_none_iff (hmake : ∀ slot ∈ s.order, s.CanMake make slot)
    (h : s.order.Nodup) :
    (ofSettings make s ledger).1 = none ↔ ∃ slot ∈ s.order, (s.provider? slot).isSome = true := by
  have hempty : s.installations make s.order = [] ↔
      ¬ ∃ slot ∈ s.order, (s.provider? slot).isSome = true := by
    rw [← List.map_eq_nil_iff (f := (·.slot)), SuggestionSettings.map_slot_installations hmake,
      List.filter_eq_nil_iff]
    simp only [not_exists, not_and]
  rw [ofSettings_of_canMake h hmake]
  dsimp only
  rw [ite_eq_right_iff, List.isEmpty_iff, hempty]
  simp only [reduceCtorEq, imp_false, not_not]

theorem slots_ofSettings (hmake : ∀ slot ∈ s.order, s.CanMake make slot) (h : s.order.Nodup) :
    (ofSettings make s ledger).2.orchestrator.slots =
      s.order.filter fun slot => (s.provider? slot).isSome := by
  rw [ofSettings_of_canMake h hmake, slots, installations_addEach_start h]
  exact SuggestionSettings.map_slot_installations hmake

/-- **The two checks of an order agree.**  If all providers that are configured can be made, the
making of an orchestrator is refused for a repeated slot just if some slot is listed twice, whether
or not it has a provider, and the slot that is named is the first that repeats one before it.  A
configuration that passes the earlier checks is refused for the same slot.  If no slot is listed
twice, there is an orchestrator just if a slot that is listed has a provider, and it tries the slots
that have one in the order in which they are listed. -/
theorem order_checks_agree (make : ProviderSettings → Except ProviderError π) (c : Configuration)
    (hmake : ∀ slot ∈ c.suggestion.order, c.suggestion.CanMake make slot) (ledger : Ledger) :
    let s := c.suggestion
    let error? := (ofSettings make s ledger).1
    let orchestrator := (ofSettings make s ledger).2.orchestrator
    ((∃ slot, error? = some (.repeatedSlot slot)) ↔ ¬ s.order.Nodup) ∧
      (∀ slot, error? = some (.repeatedSlot slot) ↔ IsFirstRepeated s.order slot) ∧
      (c.PassesEarlierChecks → ∀ slot,
        c.check = .error (.repeatedSlot slot) ↔ error? = some (.repeatedSlot slot)) ∧
      (s.order.Nodup →
        (error? = none ↔ ∃ slot ∈ s.order, (s.provider? slot).isSome = true) ∧
          orchestrator.slots = s.order.filter fun slot => (s.provider? slot).isSome) := by
  intro s error? orchestrator
  have hnamed : ∀ slot, error? = some (.repeatedSlot slot) ↔ IsFirstRepeated s.order slot :=
    fun slot => ofSettings_fst_eq_repeatedSlot_iff hmake
  refine ⟨?_, hnamed, fun hc slot => ?_, fun hnodup => ?_⟩
  · simp only [hnamed]
    constructor
    · rintro ⟨slot, hslot⟩
      exact hslot.not_nodup
    · exact (nodup_or_exists_isFirstRepeated s.order).resolve_left
  · rw [hnamed]
    exact Configuration.check_eq_repeatedSlot_iff hc
  · exact ⟨ofSettings_fst_eq_none_iff hmake hnodup, slots_ofSettings hmake hnodup⟩

/-- Both slots are listed once, and only the second one has a provider; the same slot listed twice
is found by both checks, though it has none. -/
theorem order_checks_agree_unfilled :
    let one : Configuration := { Configuration.default with
      suggestion := ⟨1000, [.secondary, .primary], some (.shared none), none⟩ }
    let twice : Configuration := { Configuration.default with
      suggestion := ⟨1000, [.secondary, .primary, .secondary], some (.shared none), none⟩ }
    let make := fun _ : ProviderSettings => Except.ok (ε := ProviderError) ()
    one.suggestion.order.Nodup ∧
      (ofSettings make one.suggestion .empty).1 = none ∧
      (ofSettings make one.suggestion .empty).2.orchestrator.slots = [.primary] ∧
      twice.PassesEarlierChecks ∧
      (ofSettings make twice.suggestion .empty).1 = some (.repeatedSlot .secondary) ∧
      twice.check = .error (.repeatedSlot .secondary) := by
  intro one twice make
  have hmake : ∀ s : SuggestionSettings, ∀ slot ∈ s.order, s.CanMake make slot :=
    fun _ _ _ _ _ => ⟨(), rfl⟩
  have hone : one.suggestion.order.Nodup := by decide
  have hchecks : twice.PassesEarlierChecks :=
    ⟨by decide, by decide, by decide, by decide⟩
  have hfirst : IsFirstRepeated twice.suggestion.order .secondary :=
    ⟨[.secondary, .primary], [], rfl, by decide, by decide⟩
  obtain ⟨-, -, -, hmade⟩ := order_checks_agree make one (hmake _) .empty
  obtain ⟨-, hnamed, hchecked, -⟩ := order_checks_agree make twice (hmake _) .empty
  have hrefused := (hnamed .secondary).mpr hfirst
  refine ⟨hone, (hmade hone).1.mpr ⟨.primary, by decide, rfl⟩, (hmade hone).2, hchecks, hrefused,
    (hchecked hchecks .secondary).mpr hrefused⟩

end Orchestrator

end EnergyAudit
