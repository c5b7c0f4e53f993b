/- Module: SthBoring/Crawler/RegistrySafety
   source: agent_crawler/fetch/browser_registry.py
   digest: Every registered page is held or closed once, the longest unused pages go first. -/

import SthBoring.Crawler.RegistryHistory

set_option autoImplicit false
set_option relaxedAutoImplicit false

namespace SthBoring.Crawler.RegistrySafety

open SthBoring.Crawler.BrowserRegistry
open SthBoring.Crawler.RegistryHistory
open SthBoring.Lib
open SthBoring.Lib.OrderedDict (PyDict assocGet)

/-- What never changes of a page: its key and its two objects of the browser. -/
def ident (handle : BrowserPageHandle) : String × ℕ × ℕ :=
  (handle.pageRef, handle.page, handle.context)

/-- The calls that closing a page makes. -/
def Closing.calls (closing : Closing) : List BrowserCall :=
  [.closePage closing.handle.page, .closeContext closing.handle.context]

/-- The invariant of a history. -/
structure Sound (py : Surroundings) (s : History) : Prop where
  keyed : s.registry.pages.Keyed BrowserPageHandle.pageRef
  named : ∀ handle ∈ s.registered, ∃ i < s.drawn, handle.pageRef = "page_" ++ py.uuid4 i
  distinct : (s.registered.map BrowserPageHandle.pageRef).Nodup
  /-- No page is lost, and none appears twice. -/
  conserved : (s.registered.map ident).Perm
    (s.closings.map (fun closing => ident closing.handle) ++ s.held.map ident)
  called : s.browserCalls = s.closings.flatMap Closing.calls
  accessed : ∀ handle ∈ s.held, s.lastAccess handle.pageRef = some handle.lastAccessedAt
  past : ∀ handle ∈ s.held, handle.lastAccessedAt ≤ py.time s.readings

/-- As many pages as may be open at most. -/
structure Fits (most : ℕ) (s : History) : Prop where
  limit : s.registry.maxOpenPages = most
  room : s.held.length ≤ most

/-- Some of the pages are taken out and closed, for one reason, and nothing else happens. -/
structure Removes (cause : Cause) (gone : BrowserPageHandle → Bool) (s s' : History) : Prop where
  held : s'.held = s.held.filter (fun handle => !gone handle)
  closed : ∃ new, s'.closings = s.closings ++ new ∧
    ∀ closing ∈ new, closing.cause = cause ∧ closing.handle ∈ s.held ∧ gone closing.handle = true
  readings : s'.readings = s.readings
  accesses : s'.accesses = s.accesses
  maxOpenPages : s'.registry.maxOpenPages = s.registry.maxOpenPages

section Removal

variable {py : Surroundings} {cause : Cause} {s s' s'' : History}

theorem closeHandle_eq (handle : BrowserPageHandle) :
    closeHandle py cause handle s =
      { s with
        closings := s.closings ++ [⟨handle, cause⟩]
        browserCalls := s.browserCalls ++ Closing.calls ⟨handle, cause⟩ } := by
  have attempted : ∀ (call : BrowserCall) (s : History),
      attempt py call s = { s with browserCalls := s.browserCalls ++ [call] } := by
    intro call s
    unfold attempt
    cases py.outcome s.browserCalls call with
    | ok _ => rfl
    | error _ => rfl
  simp only [closeHandle, attempted, Closing.calls, List.append_assoc, List.singleton_append]

theorem Removes.refl (cause : Cause) : Removes cause (fun _ => false) s s where
  held := by simp
  closed := ⟨[], by simp, List.forall_mem_nil _⟩
  readings := rfl
  accesses := rfl
  maxOpenPages := rfl

theorem Removes.trans {gone gone' : BrowserPageHandle → Bool} (h : Removes cause gone s s')
    (h' : Removes cause gone' s' s'') :
    Removes cause (fun handle => gone handle || gone' handle) s s'' where
  held := by
    rw [h'.held, h.held, List.filter_filter]
    refine List.filter_congr fun handle _ => ?_
    cases gone handle <;> cases gone' handle <;> rfl
  closed := by
    obtain ⟨new, closings, causes⟩ := h.closed
    obtain ⟨new', closings', causes'⟩ := h'.closed
    refine ⟨new ++ new', by rw [closings', closings, List.append_assoc], ?_⟩
    intro closing mem
    rcases List.mem_append.mp mem with first | second
    · obtain ⟨same, held, out⟩ := causes closing first
      exact ⟨same, held, by rw [out, Bool.true_or]⟩
    · obtain ⟨same, held, out⟩ := causes' closing second
      rw [h.held] at held
      exact ⟨same, (List.mem_filter.mp held).1, by rw [out, Bool.or_true]⟩
  readings := h'.readings.trans h.readings
  accesses := h'.accesses.trans h.accesses
  maxOpenPages := h'.maxOpenPages.trans h.maxOpenPages

theorem removes_takeOut (cause : Cause) (sound : Sound py s) (pageRef : String) :
    Removes cause (fun handle => handle.pageRef = pageRef) s (takeOut py cause s pageRef) := by
  unfold takeOut
  split
  · rename_i missing
    have others := sound.keyed.get_eq_none_iff.mp missing
    have all : s.held.filter (fun handle => !decide (handle.pageRef = pageRef)) = s.held :=
      List.filter_eq_self.mpr fun handle hh => by simpa using others handle hh
    exact
      { held := all.symm
        closed := ⟨[], by simp, List.forall_mem_nil _⟩
        readings := rfl
        accesses := rfl
        maxOpenPages := rfl }
  · rename_i handle found
    obtain ⟨stored, key⟩ := sound.keyed.get_iff.mp found
    rw [closeHandle_eq]
    have rest := sound.keyed.values_pop pageRef
    refine
      { held := ?_
        closed := ⟨[⟨handle, cause⟩], rfl, ?_⟩
        readings := rfl
        accesses := rfl
        maxOpenPages := rfl }
    · simpa [History.held, BrowserPageRegistry.remove] using rest
    · intro closing mem
      rw [List.mem_singleton.mp mem]
      exact ⟨rfl, stored, by simpa using key⟩

theorem sound_takeOut (cause : Cause) (sound : Sound py s) (pageRef : String) :
    Sound py (takeOut py cause s pageRef) := by
  unfold takeOut
  split
  · exact sound
  · rename_i handle found
    have split := (sound.keyed.perm_pop found).map ident
    have subset : ∀ other ∈ (s.registry.pages.pop pageRef).values, other ∈ s.held := by
      intro other hh
      rw [sound.keyed.values_pop] at hh
      exact (List.mem_filter.mp hh).1
    rw [closeHandle_eq]
    exact
      { keyed := sound.keyed.pop pageRef
        named := sound.named
        distinct := sound.distinct
        conserved := by
          have moved := sound.conserved.trans (split.append_left _)
          simpa [History.held, BrowserPageRegistry.remove] using moved
        called := by simp only [sound.called, List.flatMap_append, List.flatMap_singleton]
        accessed := fun other hh => sound.accessed other (subset other hh)
        past := fun other hh => sound.past other (subset other hh) }

theorem sound_takeOutAll (cause : Cause) (sound : Sound py s) (pageRefs : List String) :
    Sound py (takeOutAll py cause pageRefs s) := by
  induction pageRefs generalizing s with
  | nil => exact sound
  | cons pageRef pageRefs ih => exact ih (sound_takeOut cause sound pageRef)

theorem removes_takeOutAll (cause : Cause) (sound : Sound py s) (pageRefs : List String) :
    Removes cause (fun handle => handle.pageRef ∈ pageRefs) s
      (takeOutAll py cause pageRefs s) := by
  induction pageRefs generalizing s with
  | nil => simpa [takeOutAll] using Removes.refl cause
  | cons pageRef pageRefs ih =>
    have first := removes_takeOut cause sound pageRef
    have rest := ih (sound_takeOut cause sound pageRef)
    simpa [takeOutAll, List.mem_cons] using first.trans rest

theorem Removes.fits {most : ℕ} {gone : BrowserPageHandle → Bool} (h : Removes cause gone s s')
    (fits : Fits most s) : Fits most s' where
  limit := h.maxOpenPages.trans fits.limit
  room := by
    have shorter : s'.held.length ≤ s.held.length := by
      rw [h.held]
      exact List.length_filter_le _ _
    exact shorter.trans fits.room

theorem closeAll_eq :
    closeAll py s =
      { s with
        registry := s.registry.clear
        closings := s.closings ++ s.held.map (fun handle => ⟨handle, .all⟩)
        browserCalls := s.browserCalls ++
          s.held.flatMap (fun handle => Closing.calls ⟨handle, .all⟩) } := by
  have closed : ∀ (handles : List BrowserPageHandle) (s : History),
      handles.foldl (fun s handle => closeHandle py .all handle s) s =
        { s with
          closings := s.closings ++ handles.map (fun handle => ⟨handle, .all⟩)
          browserCalls := s.browserCalls ++
            handles.flatMap (fun handle => Closing.calls ⟨handle, .all⟩) } := by
    intro handles
    induction handles with
    | nil => intro s; simp
    | cons handle handles ih =>
      intro s
      rw [List.foldl_cons, ih, closeHandle_eq]
      simp
  rw [closeAll, closed]

theorem removes_closeAll : Removes .all (fun _ => true) s (closeAll py s) := by
  rw [closeAll_eq]
  refine
    { held := ?_
      closed := ⟨_, rfl, ?_⟩
      readings := rfl
      accesses := rfl
      maxOpenPages := rfl }
  · simp [History.held, BrowserPageRegistry.clear, PyDict.values, PyDict.empty]
  · intro closing mem
    obtain ⟨handle, held, rfl⟩ := List.mem_map.mp mem
    exact ⟨rfl, held, rfl⟩

theorem sound_closeAll (sound : Sound py s) : Sound py (closeAll py s) := by
  rw [closeAll_eq]
  exact
    { keyed := PyDict.keyed_empty
      named := sound.named
      distinct := sound.distinct
      conserved := by
        simpa [History.held, BrowserPageRegistry.clear, PyDict.values, PyDict.empty,
          Function.comp_def] using sound.conserved
      called := by
        simp only [sound.called, List.flatMap_append, List.flatMap_map]
      accessed := List.forall_mem_nil _
      past := List.forall_mem_nil _ }

end Removal

section Expiry

variable {py : Surroundings} {s : History}

theorem Sound.later (sound : Sound py s) {readings : ℕ} (le : s.readings ≤ readings) :
    Sound py { s with readings := readings } :=
  { keyed := sound.keyed
    named := sound.named
    distinct := sound.distinct
    conserved := sound.conserved
    called := sound.called
    accessed := sound.accessed
    past := fun handle hh => (sound.past handle hh).trans (py.forward le) }

theorem le_checkExpired (py : Surroundings) (handle : BrowserPageHandle) (readings : ℕ) :
    readings ≤ (checkExpired py handle readings).2 := by
  unfold checkExpired
  split
  · exact Nat.le_succ readings
  · exact le_rfl

theorem le_expiredRefs (py : Surroundings) (items : List (String × BrowserPageHandle)) (readings : ℕ) :
    readings ≤ (expiredRefs py items readings).2 := by
  induction items generalizing readings with
  | nil => exact le_rfl
  | cons item items ih => exact (le_checkExpired py item.2 readings).trans (ih _)

/-- A page that is not expired has not been unused for longer than it may. -/
theorem not_isOver {handle : BrowserPageHandle} {readings : ℕ}
    (h : (checkExpired py handle readings).1 = false) (mortal : 0 < handle.ttlS) :
    Binary64.round (py.time readings - handle.lastAccessedAt) ≤ handle.ttlS := by
  rw [checkExpired, if_pos mortal] at h
  have passed : ¬ (handle.ttlS : ℚ) < Binary64.round (py.time readings - handle.lastAccessedAt) := by
    simpa [isExpired, mortal] using h
  exact not_lt.mp passed

/-- A sweep reads the clock, and takes expired pages out. -/
theorem sweepExpired_spec (sound : Sound py s) :
    Sound py (sweepExpired py s).2 ∧
      ∃ (readings : ℕ) (pageRefs : List String), s.readings ≤ readings ∧
        Removes .expired (fun handle => handle.pageRef ∈ pageRefs) { s with readings := readings }
          (sweepExpired py s).2 := by
  have le := le_expiredRefs py s.registry.pages.entries s.readings
  have later := sound.later le
  exact ⟨sound_takeOutAll .expired later _, _, _, le, removes_takeOutAll .expired later _⟩

end Expiry

section Entering

variable {py : Surroundings} {s : History} (registration : Registration)

theorem Sound.registered_of_held (sound : Sound py s) {handle : BrowserPageHandle}
    (hh : handle ∈ s.held) : ∃ first ∈ s.registered, ident first = ident handle := by
  have inside : ident handle ∈ s.registered.map ident :=
    sound.conserved.mem_iff.mpr (List.mem_append_right _ (List.mem_map_of_mem hh))
  exact List.mem_map.mp inside

/-- The key of a new page is new. -/
theorem Sound.new_pageRef (sound : Sound py s) :
    ∀ handle ∈ s.registered, handle.pageRef ≠ (newHandle py registration s).pageRef := by
  intro handle hh same
  obtain ⟨i, lt, named⟩ := sound.named handle hh
  have texts : "page_" ++ py.uuid4 i = "page_" ++ py.uuid4 s.drawn := named.symm.trans same
  have drawn : i = s.drawn := py.fresh ((String.append_right_inj "page_").mp texts)
  omega

theorem Sound.new_pageRef_held (sound : Sound py s) :
    ∀ handle ∈ s.held, handle.pageRef ≠ (newHandle py registration s).pageRef := by
  intro handle hh
  obtain ⟨first, registered, same⟩ := sound.registered_of_held hh
  have pageRef : first.pageRef = handle.pageRef := congrArg Prod.fst same
  rw [← pageRef]
  exact sound.new_pageRef registration first registered

theorem held_enter (sound : Sound py s) :
    (enter py registration s).held = s.held ++ [newHandle py registration s] :=
  (sound.keyed.set_new (sound.new_pageRef_held registration)).2

theorem sound_enter (sound : Sound py s) : Sound py (enter py registration s) where
  keyed := (sound.keyed.set_new (sound.new_pageRef_held registration)).1
  named := by
    intro handle hh
    rcases List.mem_append.mp hh with old | new
    · obtain ⟨i, lt, named⟩ := sound.named handle old
      exact ⟨i, Nat.lt_succ_of_lt (Nat.lt_succ_of_lt lt), named⟩
    · rw [List.mem_singleton.mp new]
      exact ⟨s.drawn, Nat.lt_add_of_pos_right Nat.two_pos, rfl⟩
  distinct := by
    have new := sound.new_pageRef registration
    show ((s.registered ++ [_]).map _).Nodup
    rw [List.map_append, List.map_singleton]
    refine List.nodup_append.mpr ⟨sound.distinct, List.nodup_singleton _, ?_⟩
    intro a ha b hb
    obtain ⟨handle, hh, rfl⟩ := List.mem_map.mp ha
    rw [List.mem_singleton.mp hb]
    exact new handle hh
  conserved := by
    rw [held_enter registration sound]
    show ((s.registered ++ [_]).map ident).Perm _
    rw [List.map_append, List.map_append, ← List.append_assoc]
    exact sound.conserved.append_right _
  called := sound.called
  accessed := by
    intro handle hh
    rw [held_enter registration sound] at hh
    show (if (newHandle py registration s).pageRef = handle.pageRef then
        some (newHandle py registration s).lastAccessedAt else s.lastAccess handle.pageRef) = _
    rcases List.mem_append.mp hh with old | new
    · rw [if_neg (Ne.symm (sound.new_pageRef_held registration handle old))]
      exact sound.accessed handle old
    · rw [List.mem_singleton.mp new, if_pos rfl]
  past := by
    intro handle hh
    rw [held_enter registration sound] at hh
    rcases List.mem_append.mp hh with old | new
    · exact (sound.past handle old).trans (py.forward (Nat.le_add_right s.readings 2))
    · rw [List.mem_singleton.mp new]
      exact py.forward (Nat.le_succ (s.readings + 1))

/-- What is touched was found in the registry. -/
theorem sound_touch (sound : Sound py s) {handle : BrowserPageHandle} (hh : handle ∈ s.held) :
    Sound py (touch py handle s).2 ∧ (touch py handle s).2.held.length = s.held.length := by
  obtain ⟨keyed, values⟩ := sound.keyed.set_old (a := (touch py handle s).1) hh rfl
  have held : (touch py handle s).2.held = s.held.map
      (fun other => if other.pageRef = handle.pageRef then (touch py handle s).1 else other) :=
    values
  have only : ∀ other ∈ s.held, other.pageRef = handle.pageRef → other = handle :=
    fun other ho => sound.keyed.eq_of_key_eq ho hh
  refine ⟨?_, by rw [held, List.length_map]⟩
  exact
    { keyed := keyed
      named := sound.named
      distinct := sound.distinct
      conserved := by
        have unmoved : (touch py handle s).2.held.map ident = s.held.map ident := by
          rw [held, List.map_map]
          refine List.map_congr_left fun other ho => ?_
          by_cases same : other.pageRef = handle.pageRef
          · rw [Function.comp_apply, if_pos same, only other ho same]
            rfl
          · rw [Function.comp_apply, if_neg same]
        rw [unmoved]
        exact sound.conserved
      called := sound.called
      accessed := by
        intro other ho
        show (if handle.pageRef = other.pageRef then some (touch py handle s).1.lastAccessedAt
          else s.lastAccess other.pageRef) = _
        rw [held] at ho
        obtain ⟨old, hold, rfl⟩ := List.mem_map.mp ho
        by_cases same : old.pageRef = handle.pageRef
        · simp only [if_pos same]
          exact if_pos rfl
        · simp only [if_neg same, if_neg (Ne.symm same)]
          exact sound.accessed old hold
      past := by
        intro other ho
        rw [held] at ho
        obtain ⟨old, hold, rfl⟩ := List.mem_map.mp ho
        have next := py.forward (Nat.le_succ s.readings)
        by_cases same : old.pageRef = handle.pageRef
        · rw [if_pos same]
          exact next
        · rw [if_neg same]
          exact (sound.past old hold).trans next }

end Entering

section Eviction

/-- A page used last stays last when pages are sorted by use. -/
theorem insertionSort_append_last {handles : List BrowserPageHandle} {last : BrowserPageHandle}
    (latest : ∀ handle ∈ handles, handle.lastAccessedAt ≤ last.lastAccessedAt) :
    (handles ++ [last]).insertionSort (fun a b => a.lastAccessedAt ≤ b.lastAccessedAt) =
      handles.insertionSort (fun a b => a.lastAccessedAt ≤ b.lastAccessedAt) ++ [last] := by
  have insert : ∀ (a : BrowserPageHandle) (sorted : List BrowserPageHandle),
      a.lastAccessedAt ≤ last.lastAccessedAt →
      (sorted ++ [last]).orderedInsert (fun a b => a.lastAccessedAt ≤ b.lastAccessedAt) a =
        sorted.orderedInsert (fun a b => a.lastAccessedAt ≤ b.lastAccessedAt) a ++ [last] := by
    intro a sorted le
    induction sorted with
    | nil => simp [List.orderedInsert, le]
    | cons b sorted ih =>
      by_cases first : a.lastAccessedAt ≤ b.lastAccessedAt
      · simp [List.orderedInsert, first]
      · simp [List.orderedInsert, first, ih]
  induction handles with
  | nil => rfl
  | cons handle handles ih =>
    have rest := ih fun other ho => latest other (List.mem_cons_of_mem handle ho)
    rw [List.cons_append, List.insertionSort_cons, rest,
      insert handle _ (latest handle List.mem_cons_self), List.insertionSort_cons]

variable {py : Surroundings} {s : History}

/-- Of pages sorted by use the first were used no later than the others. -/
theorem overflowing_le (registry : BrowserPageRegistry) :
    ∀ evicted ∈ registry.overflowing, ∀ kept ∈ registry.pages.values,
      kept ∉ registry.overflowing → evicted.lastAccessedAt ≤ kept.lastAccessedAt := by
  intro evicted he kept hk out
  let before := fun a b : BrowserPageHandle => a.lastAccessedAt ≤ b.lastAccessedAt
  have total : Std.Total before := ⟨fun a b => le_total a.lastAccessedAt b.lastAccessedAt⟩
  have transitive : IsTrans BrowserPageHandle before := ⟨fun _ _ _ ab bc => le_trans ab bc⟩
  have sorted := List.pairwise_insertionSort before registry.pages.values
  rw [← List.take_append_drop (registry.pages.values.length - registry.maxOpenPages)
    (registry.pages.values.insertionSort before)] at sorted
  have inside : kept ∈ registry.pages.values.insertionSort before :=
    (List.mem_insertionSort before).mpr hk
  rw [← List.take_append_drop (registry.pages.values.length - registry.maxOpenPages)
    (registry.pages.values.insertionSort before)] at inside
  rcases List.mem_append.mp inside with first | rest
  · exact absurd first out
  · exact (List.pairwise_append.mp sorted).2.2 evicted he kept rest

theorem mem_of_mem_overflowing {registry : BrowserPageRegistry} {handle : BrowserPageHandle}
    (h : handle ∈ registry.overflowing) : handle ∈ registry.pages.values :=
  (List.mem_insertionSort _).mp (List.mem_of_mem_take h)

/-- After eviction there is room again. -/
theorem fits_evictIfNeeded (sound : Sound py s) :
    Fits s.registry.maxOpenPages (evictIfNeeded py s) := by
  have removes := removes_takeOutAll .evicted sound
    (s.registry.overflowing.map BrowserPageHandle.pageRef)
  refine ⟨removes.maxOpenPages, ?_⟩
  rw [evictIfNeeded, removes.held]
  -- what is left are pages behind the overflowing ones
  let before := fun a b : BrowserPageHandle => a.lastAccessedAt ≤ b.lastAccessedAt
  let most := s.registry.maxOpenPages
  have perm := (List.perm_insertionSort before s.held).filter
    (fun handle => !decide (handle.pageRef ∈ s.registry.overflowing.map BrowserPageHandle.pageRef))
  rw [← perm.length_eq, ← List.take_append_drop (s.held.length - most)
    (s.held.insertionSort before), List.filter_append]
  have none_left : (List.take (s.held.length - most) (s.held.insertionSort before)).filter
      (fun handle => !decide (handle.pageRef ∈
        s.registry.overflowing.map BrowserPageHandle.pageRef)) = [] := by
    refine List.filter_eq_nil_iff.mpr fun handle hh => ?_
    have out : handle.pageRef ∈ s.registry.overflowing.map BrowserPageHandle.pageRef :=
      List.mem_map_of_mem hh
    simpa using out
  rw [none_left, List.nil_append]
  refine (List.length_filter_le _ _).trans ?_
  rw [List.length_drop, List.length_insertionSort]
  omega

/-- The page that was put in last stays in, however many go. -/
theorem last_not_overflowing {old : List BrowserPageHandle} {last : BrowserPageHandle}
    (sound : Sound py s) (held : s.held = old ++ [last])
    (latest : ∀ handle ∈ old, handle.lastAccessedAt ≤ last.lastAccessedAt) :
    last.pageRef ∉ s.registry.overflowing.map BrowserPageHandle.pageRef := by
  intro inside
  obtain ⟨handle, overflowing, same⟩ := List.mem_map.mp inside
  have inHeld : last ∈ s.held := held ▸ List.mem_append_right old List.mem_cons_self
  obtain rfl : handle = last :=
    sound.keyed.eq_of_key_eq (mem_of_mem_overflowing overflowing) inHeld same
  have values : s.registry.pages.values = old ++ [handle] := held
  have one : 0 < s.registry.maxOpenPages := s.registry.roomForOne
  have few : (old ++ [handle]).length - s.registry.maxOpenPages ≤
      (old.insertionSort (fun a b => a.lastAccessedAt ≤ b.lastAccessedAt)).length := by
    rw [List.length_insertionSort, List.length_append, List.length_singleton]
    omega
  rw [BrowserPageRegistry.overflowing, values, insertionSort_append_last latest,
    List.take_append_of_le_length few] at overflowing
  have among : handle ∈ old := (List.mem_insertionSort _).mp (List.mem_of_mem_take overflowing)
  have distinct := sound.keyed.nodup
  rw [values, List.map_append, List.nodup_append] at distinct
  exact distinct.2.2 handle.pageRef (List.mem_map_of_mem among) handle.pageRef
    (by simp) rfl

/-- What a call closed to make room was used no later than what it kept. -/
def EvictsOldest (s s' : History) : Prop :=
  ∃ new, s'.closings = s.closings ++ new ∧
    ∀ closing ∈ new, closing.cause = .evicted → ∀ kept ∈ s'.held, ∃ last last',
      s'.lastAccess closing.handle.pageRef = some last ∧
        s'.lastAccess kept.pageRef = some last' ∧ last ≤ last'

theorem Removes.evictsOldest {cause : Cause} {gone : BrowserPageHandle → Bool} {s s' : History}
    (h : Removes cause gone s s') (other : cause ≠ .evicted) : EvictsOldest s s' := by
  obtain ⟨new, closings, causes⟩ := h.closed
  exact ⟨new, closings, fun closing mem evicted =>
    absurd ((causes closing mem).1.symm.trans evicted) other⟩

theorem evictsOldest_evictIfNeeded (sound : Sound py s) : EvictsOldest s (evictIfNeeded py s) := by
  have removes := removes_takeOutAll .evicted sound
    (s.registry.overflowing.map BrowserPageHandle.pageRef)
  have same : ∀ pageRef, (evictIfNeeded py s).lastAccess pageRef = s.lastAccess pageRef :=
    fun pageRef => congrArg (assocGet pageRef) removes.accesses
  obtain ⟨new, closings, causes⟩ := removes.closed
  refine ⟨new, closings, fun closing mem _ kept hk => ?_⟩
  obtain ⟨-, held, out⟩ := causes closing mem
  obtain ⟨evicted, overflowing, pageRef⟩ := List.mem_map.mp (of_decide_eq_true out)
  obtain rfl : evicted = closing.handle :=
    sound.keyed.eq_of_key_eq (mem_of_mem_overflowing overflowing) held pageRef
  rw [evictIfNeeded, removes.held] at hk
  obtain ⟨stays, inside⟩ := List.mem_filter.mp hk
  have behind : kept ∉ s.registry.overflowing := by
    intro first
    have again : kept.pageRef ∈ s.registry.overflowing.map BrowserPageHandle.pageRef :=
      List.mem_map_of_mem first
    simp [again] at inside
  refine ⟨_, _, ?_, ?_, overflowing_le s.registry closing.handle overflowing kept stays behind⟩
  · rw [same]
    exact sound.accessed closing.handle held
  · rw [same]
    exact sound.accessed kept stays

end Eviction

section Steps

variable {py : Surroundings} {s : History} {most : ℕ}

theorem register_spec (sound : Sound py s) (registration : Registration) :
    Sound py (register py registration s).2 ∧
      Fits s.registry.maxOpenPages (register py registration s).2 ∧
      EvictsOldest s (register py registration s).2 ∧
      (register py registration s).2.registry.pages.get (register py registration s).1.pageRef =
        some (register py registration s).1 := by
  obtain ⟨swept, readings, pageRefs, -, expired⟩ := sweepExpired_spec sound
  have entered := sound_enter registration swept
  have held := held_enter registration swept
  have removes := removes_takeOutAll .evicted entered
    ((enter py registration (sweepExpired py s).2).registry.overflowing.map
      BrowserPageHandle.pageRef)
  have kept := sound_takeOutAll .evicted entered
    ((enter py registration (sweepExpired py s).2).registry.overflowing.map
      BrowserPageHandle.pageRef)
  have limit : (enter py registration (sweepExpired py s).2).registry.maxOpenPages =
      s.registry.maxOpenPages := expired.maxOpenPages
  refine ⟨kept, limit ▸ fits_evictIfNeeded entered, ?_, ?_⟩
  · obtain ⟨new, closings, causes⟩ := expired.closed
    obtain ⟨new', closings', oldest⟩ := evictsOldest_evictIfNeeded entered
    refine ⟨new ++ new', ?_, ?_⟩
    · have first : (enter py registration (sweepExpired py s).2).closings = s.closings ++ new :=
        closings
      rw [register, closings', first, List.append_assoc]
    · intro closing mem evicted
      rcases List.mem_append.mp mem with sweep | eviction
      · exact absurd ((causes closing sweep).1.symm.trans evicted) nofun
      · exact oldest closing eviction evicted
  · have latest : ∀ handle ∈ (sweepExpired py s).2.held, handle.lastAccessedAt ≤
        (newHandle py registration (sweepExpired py s).2).lastAccessedAt :=
      fun handle hh => (swept.past handle hh).trans (py.forward (Nat.le_succ _))
    have stays := last_not_overflowing entered held latest
    have inside : newHandle py registration (sweepExpired py s).2 ∈
        (register py registration s).2.held := by
      rw [register, evictIfNeeded, removes.held, held]
      exact List.mem_filter.mpr
        ⟨List.mem_append_right _ List.mem_cons_self, by simpa using stays⟩
    exact kept.keyed.get_of_mem inside

theorem get_spec (sound : Sound py s) (fits : Fits most s) (pageRef : String) :
    Sound py (get py pageRef s).2 ∧ Fits most (get py pageRef s).2 ∧
      EvictsOldest s (get py pageRef s).2 := by
  unfold RegistryHistory.get
  split
  · exact ⟨sound, fits, (Removes.refl .asked).evictsOldest nofun⟩
  · rename_i handle found
    have later := sound.later (le_checkExpired py handle s.readings)
    dsimp only
    split
    · have removes := removes_takeOut .expired later pageRef
      exact ⟨sound_takeOut .expired later pageRef, removes.fits ⟨fits.limit, fits.room⟩,
        removes.evictsOldest nofun⟩
    · have stored : handle ∈ s.held := (sound.keyed.get_iff.mp found).1
      obtain ⟨touched, length⟩ := sound_touch later stored
      exact ⟨touched, ⟨fits.limit, length.trans_le fits.room⟩, [], (List.append_nil _).symm,
        List.forall_mem_nil _⟩

theorem step_spec (sound : Sound py s) (fits : Fits most s) (call : RegistryCall) :
    Sound py (step py s call) ∧ Fits most (step py s call) ∧ EvictsOldest s (step py s call) := by
  cases call with
  | register registration =>
    obtain ⟨kept, room, oldest, -⟩ := register_spec sound registration
    exact ⟨kept, fits.limit ▸ room, oldest⟩
  | get pageRef => exact get_spec sound fits pageRef
  | close pageRef =>
    have removes := removes_takeOut .asked sound pageRef
    exact ⟨sound_takeOut .asked sound pageRef, removes.fits fits, removes.evictsOldest nofun⟩
  | sweepExpired =>
    obtain ⟨swept, readings, pageRefs, -, removes⟩ := sweepExpired_spec sound
    have oldest : EvictsOldest s (sweepExpired py s).2 := removes.evictsOldest nofun
    exact ⟨swept, removes.fits ⟨fits.limit, fits.room⟩, oldest⟩
  | closeAll =>
    have removes : Removes .all _ s (closeAll py s) := removes_closeAll
    exact ⟨sound_closeAll sound, removes.fits fits, removes.evictsOldest nofun⟩

theorem sound_run (py : Surroundings) (maxOpenPages defaultTtlS : ℤ) (calls : List RegistryCall) :
    Sound py (run py maxOpenPages defaultTtlS calls) ∧
      Fits (max 1 maxOpenPages).toNat (run py maxOpenPages defaultTtlS calls) := by
  induction calls using List.reverseRecOn with
  | nil =>
    refine ⟨?_, rfl, Nat.zero_le _⟩
    exact
      { keyed := PyDict.keyed_empty
        named := List.forall_mem_nil _
        distinct := List.nodup_nil
        conserved := List.Perm.refl _
        called := rfl
        accessed := List.forall_mem_nil _
        past := List.forall_mem_nil _ }
  | append_singleton calls call ih =>
    have next := step_spec ih.1 ih.2 call
    rw [run, List.foldl_append]
    exact ⟨next.1, next.2.1⟩

/-- A page that was registered is held and was never closed, or it is not held and was closed
once. -/
theorem Sound.held_or_closed (sound : Sound py s) {handle : BrowserPageHandle}
    (hh : handle ∈ s.registered) :
    (s.holds handle.pageRef ∧ s.timesClosed handle.pageRef = 0) ∨
      (¬ s.holds handle.pageRef ∧ s.timesClosed handle.pageRef = 1) := by
  have pageRefs := sound.conserved.map Prod.fst
  rw [List.map_append, List.map_map, List.map_map, List.map_map] at pageRefs
  have counts := pageRefs.count_eq handle.pageRef
  rw [List.count_append] at counts
  have once : (s.registered.map BrowserPageHandle.pageRef).count handle.pageRef = 1 :=
    List.count_eq_one_of_mem sound.distinct (List.mem_map_of_mem hh)
  have total : s.timesClosed handle.pageRef +
      (s.held.map BrowserPageHandle.pageRef).count handle.pageRef = 1 := counts.symm.trans once
  have held : s.holds handle.pageRef ↔
      0 < (s.held.map BrowserPageHandle.pageRef).count handle.pageRef := by
    rw [List.count_pos_iff, History.holds, Option.isSome_iff_exists]
    constructor
    · rintro ⟨found, get⟩
      obtain ⟨stored, same⟩ := sound.keyed.get_iff.mp get
      exact List.mem_map.mpr ⟨found, stored, same⟩
    · intro inside
      obtain ⟨found, stored, same⟩ := List.mem_map.mp inside
      exact ⟨found, sound.keyed.get_iff.mpr ⟨stored, same⟩⟩
  by_cases holds : s.holds handle.pageRef
  · have positive := held.mp holds
    exact Or.inl ⟨holds, by omega⟩
  · have zero : ¬ 0 < (s.held.map BrowserPageHandle.pageRef).count handle.pageRef :=
      fun positive => holds (held.mpr positive)
    exact Or.inr ⟨holds, by omega⟩

/-- A call on an object of the browser is made as often as the object was registered, less the
times it is held. -/
theorem Sound.count_call (sound : Sound py s) {call : BrowserCall}
    (object : String × ℕ × ℕ → Bool)
    (one : ∀ closing, (Closing.calls closing).count call =
      if object (ident closing.handle) then 1 else 0) :
    s.browserCalls.count call + s.held.countP (fun handle => object (ident handle)) =
      s.registered.countP (fun handle => object (ident handle)) := by
  have counts := sound.conserved.countP_eq object
  rw [List.countP_append, List.countP_map, List.countP_map, List.countP_map] at counts
  have called : s.browserCalls.count call =
      s.closings.countP (fun closing => object (ident closing.handle)) := by
    rw [sound.called]
    induction s.closings with
    | nil => rfl
    | cons closing closings ih =>
      rw [List.flatMap_cons, List.count_append, ih, one, List.countP_cons]
      omega
  rw [called]
  exact counts.symm

theorem Sound.page_closed (sound : Sound py s) (page : ℕ) :
    s.browserCalls.count (.closePage page) + s.held.countP (fun handle => handle.page = page) =
      s.registered.countP (fun handle => handle.page = page) := by
  apply sound.count_call fun key => key.2.1 = page
  intro closing
  by_cases same : closing.handle.page = page
  · simp [Closing.calls, ident, same]
  · simp [Closing.calls, ident, same]

theorem Sound.context_closed (sound : Sound py s) (context : ℕ) :
    s.browserCalls.count (.closeContext context) +
        s.held.countP (fun handle => handle.context = context) =
      s.registered.countP (fun handle => handle.context = context) := by
  apply sound.count_call fun key => key.2.2 = context
  intro closing
  by_cases same : closing.handle.context = context
  · simp [Closing.calls, ident, same]
  · simp [Closing.calls, ident, same]

/-- What `get` gives was not unused for longer than it may. -/
theorem get_fresh (sound : Sound py s) {pageRef : String} {handle : BrowserPageHandle}
    (given : (get py pageRef s).1 = some handle) (mortal : 0 < handle.ttlS) :
    ∃ last, s.lastAccess pageRef = some last ∧
      Binary64.round (py.time s.readings - last) ≤ handle.ttlS := by
  unfold RegistryHistory.get at given
  split at given
  · cases given
  · rename_i found stored
    obtain ⟨held, rfl⟩ := sound.keyed.get_iff.mp stored
    dsimp only at given
    split at given
    · cases given
    · rename_i fresh
      obtain rfl := Option.some.inj given
      exact ⟨found.lastAccessedAt, sound.accessed found held,
        not_isOver (Bool.eq_false_iff.mpr fresh) mortal⟩

end Steps

/-- **The page registry.** After any calls: the pages held are no more than may be open, every
page registered is held and never closed or not held and closed once, in the registry's own count
and in the calls made on the browser, `register` gives a page that is held, what makes room was
used no later than what stays, and `get` gives no page unused for longer than it may. -/
theorem registry_invariant (py : Surroundings) (maxOpenPages defaultTtlS : ℤ)
    (calls : List RegistryCall) :
    let s := run py maxOpenPages defaultTtlS calls
    (s.held.length : ℤ) ≤ max 1 maxOpenPages ∧
    (∀ handle ∈ s.registered,
      (s.holds handle.pageRef ∧ s.timesClosed handle.pageRef = 0) ∨
        (¬ s.holds handle.pageRef ∧ s.timesClosed handle.pageRef = 1)) ∧
    (∀ page, s.browserCalls.count (.closePage page) +
        s.held.countP (fun handle => handle.page = page) =
      s.registered.countP (fun handle => handle.page = page)) ∧
    (∀ context, s.browserCalls.count (.closeContext context) +
        s.held.countP (fun handle => handle.context = context) =
      s.registered.countP (fun handle => handle.context = context)) ∧
    (∀ registration, let (handle, s') := register py registration s
      s'.registry.pages.get handle.pageRef = some handle) ∧
    (∀ call, EvictsOldest s (step py s call)) ∧
    ∀ pageRef handle, (get py pageRef s).1 = some handle → 0 < handle.ttlS →
      ∃ last, s.lastAccess pageRef = some last ∧
        Binary64.round (py.time s.readings - last) ≤ handle.ttlS := by
  intro s
  obtain ⟨sound, fits⟩ := sound_run py maxOpenPages defaultTtlS calls
  refine ⟨?_, fun handle hh => sound.held_or_closed hh, sound.page_closed,
    sound.context_closed, ?_, ?_, ?_⟩
  · have room : s.held.length ≤ (max 1 maxOpenPages).toNat := fits.room
    omega
  · intro registration
    exact (register_spec sound registration).2.2.2
  · intro call
    exact (step_spec sound fits call).2.2
  · intro pageRef handle given mortal
    exact get_fresh sound given mortal

end SthBoring.Crawler.RegistrySafety
