/- Module: SthBoring/WebKit/TornEntries
   source: webkit/fetchers/http.py
   digest: When a loaded entry is one that a save was given, and when it is torn. -/

import SthBoring.WebKit.DiskCache

set_option autoImplicit false
set_option relaxedAutoImplicit false

namespace SthBoring.WebKit.TornEntries

open SthBoring.Lib.Inodes (Disk)
open SthBoring.Lib.Inodes.Disk
open SthBoring.Lib.OrderedDict (PyDict assocGet assocSet assocGet_assocSet)
open SthBoring.Lib.PyValue (Value Fields PyExc PyFloat)
open SthBoring.Lib.Runs (run)
open SthBoring.WebKit.DiskCache

variable (json : Json)

/-- The metadata of a call, apart from the time of the save and the mark of age. -/
def Agrees (metadata : Fields) (call : SaveCall) : Prop :=
  ∀ key, key ≠ "fetched_at_epoch" → key ≠ "_stale" → Fields.get metadata key = call.metadata.get key

def Given (s : State) (call : SaveCall) : Prop := ∃ stage, .save call stage ∈ s.agents

/-- What a load returned was given to one save. -/
def Untorn (s : State) : Prop :=
  ∀ call body metadata, .load call (.returned (some (body, metadata))) ∈ s.agents →
    ∃ saved, Given s saved ∧ body = saved.body ∧ Agrees metadata saved

section Standing

/-- The temporary names are written to. -/
def loose (name : FileName) : Prop := name.tmp = true

/-- The dict of a call could be written. -/
def Complete (call : SaveCall) : Prop := (json.dump (stamped call)).2 = none

/-- A temporary file that is written to its end. -/
def Pending (disk : CacheDir) (part : Part) (call : SaveCall) : Prop :=
  ∃ file, disk.names ⟨part, true⟩ = some file ∧ disk.content file = contentOf json call part

/-- A file that is in its place. -/
def Standing (disk : CacheDir) (part : Part) (call : SaveCall) : Prop :=
  ∃ file, disk.names ⟨part, false⟩ = some file ∧
    Settled loose disk file (contentOf json call part)

/-- The open temporary file of a part has the octets up to the offset. -/
structure Written (disk : CacheDir) (part : Part) (call : SaveCall) (file offset : ℕ) : Prop where
  named : disk.names ⟨part, true⟩ = some file
  content : disk.content file = (contentOf json call part).take offset
  within : offset ≤ (contentOf json call part).length

def SaveFits (disk : CacheDir) (call : SaveCall) : SaveStage → Prop
  | .opening .body | .saved | .stopped => True
  | .opening .metadata => Pending json disk .body call
  | .writing .body file offset => Written json disk .body call file offset
  | .writing .metadata file offset =>
    Pending json disk .body call ∧ Written json disk .metadata call file offset
  | .replacing .body =>
    Pending json disk .body call ∧ Pending json disk .metadata call ∧ Complete json call
  | .replacing .metadata =>
    Standing json disk .body call ∧ Pending json disk .metadata call ∧ Complete json call

def LoadFits (given : SaveCall → Prop) (disk : CacheDir) : LoadStage → Prop
  | .readingMeta file acc => ∃ call, given call ∧ Complete json call ∧
    Settled loose disk file (contentOf json call .metadata) ∧
    acc <+: contentOf json call .metadata ∧ Standing json disk .body call
  | .openingBody metadata => ∃ call, given call ∧ Agrees metadata call ∧ Standing json disk .body call
  | .readingBody file acc metadata => ∃ call, given call ∧ Agrees metadata call ∧
    Settled loose disk file call.body ∧ acc <+: call.body
  | .returned (some (body, metadata)) => ∃ call, given call ∧ body = call.body ∧ Agrees metadata call
  | _ => True

def Fits (given : SaveCall → Prop) (disk : CacheDir) : Agent → Prop
  | .save call stage => SaveFits json disk call stage
  | .load _ stage => LoadFits json given disk stage

/-- Both files in their places belong to one save. -/
def Paired (given : SaveCall → Prop) (disk : CacheDir) : Prop :=
  disk.names ⟨.metadata, false⟩ = none ∨ ∃ call, given call ∧ Complete json call ∧
    Standing json disk .body call ∧ Standing json disk .metadata call

variable {json} {disk disk' : CacheDir} {call : SaveCall} {part : Part} {file offset : ℕ}

theorem distinct_tmp (part : Part) : (⟨part, true⟩ : FileName) ≠ ⟨part, false⟩ := nofun

theorem loose_tmp (part : Part) : loose ⟨part, true⟩ := rfl

theorem fixed (part : Part) : ¬ loose ⟨part, false⟩ := nofun

/-- A file of its own stays as it is when the other part is opened. -/
theorem Pending.opened {other : Part} (pending : Pending json disk part call) (ne : part ≠ other) :
    Pending json (disk.openWrite ⟨other, true⟩).2 part call := by
  obtain ⟨file, named, content⟩ := pending
  have apart : (⟨part, true⟩ : FileName) ≠ ⟨other, true⟩ := fun same => ne (congrArg FileName.part same)
  refine ⟨file, (names_openWrite_of_ne apart).trans named, ?_⟩
  refine content_eq (getElem?_openWrite ?_ fun there => apart (disk.separate _ _ _ named there))
  rw [getElem?_of_named named, content]

theorem Pending.written {other : Part} {chunk : List UInt8} (pending : Pending json disk part call)
    (ne : part ≠ other) (named : disk.names ⟨other, true⟩ = some file) :
    Pending json (disk.writeAt 0 file offset chunk) part call := by
  obtain ⟨own, here, content⟩ := pending
  have apart : file ≠ own := by
    rintro rfl
    exact ne (congrArg FileName.part (disk.separate _ _ _ here named))
  exact ⟨own, here, (content_writeAt_of_ne apart).trans content⟩

/-- One more chunk is written behind the others. -/
theorem Written.next (written : Written json disk part call file offset) (size : ℕ) :
    let chunk := ((contentOf json call part).drop offset).take (size + 1)
    Written json (disk.writeAt 0 file offset chunk) part call file (offset + chunk.length) := by
  intro chunk
  have front : chunk = ((contentOf json call part).drop offset).take chunk.length :=
    List.prefix_iff_eq_take.mp (List.take_prefix _ _)
  have short : chunk.length ≤ (contentOf json call part).length - offset := by
    have bound := (List.take_prefix (size + 1) ((contentOf json call part).drop offset)).length_le
    rwa [List.length_drop] at bound
  have within := written.within
  refine ⟨written.named, ?_, by omega⟩
  have length : (disk.content file).length = offset := by
    rw [written.content, List.length_take]
    omega
  rw [content_writeAt written.named, splice_end 0 length, written.content, List.take_add, ← front]

/-- Nothing more to write. -/
theorem Written.pending (written : Written json disk part call file offset) {size : ℕ}
    (ended : (((contentOf json call part).drop offset).take (size + 1)).isEmpty = true) :
    Pending json disk part call := by
  refine ⟨file, written.named, ?_⟩
  have nothing : (contentOf json call part).drop offset = [] := by
    rw [List.isEmpty_iff, List.take_eq_nil_iff] at ended
    exact ended.resolve_left (Nat.succ_ne_zero size)
  rw [written.content, List.take_of_length_le (List.drop_eq_nil_iff.mp nothing)]

theorem Standing.mono {disk' : CacheDir} (standing : Standing json disk part call)
    (settled : ∀ file xs, Settled loose disk file xs → Settled loose disk' file xs)
    (same : disk'.names ⟨part, false⟩ = disk.names ⟨part, false⟩) :
    Standing json disk' part call := by
  obtain ⟨file, named, stands⟩ := standing
  exact ⟨file, same.trans named, settled _ _ stands⟩

end Standing

section Saves

/-- What one file operation of a save does to the directory and to the save. -/
structure Acted (json : Json) (disk disk' : CacheDir) (call : SaveCall) (stage stage' : SaveStage) :
    Prop where
  fits : SaveFits json disk' call stage'
  settled : ∀ file xs, Settled loose disk file xs → Settled loose disk' file xs
  body : stage ≠ .replacing .body → disk'.names ⟨.body, false⟩ = disk.names ⟨.body, false⟩
  metadata : stage ≠ .replacing .metadata →
    disk'.names ⟨.metadata, false⟩ = disk.names ⟨.metadata, false⟩
  pairs : stage = .replacing .metadata → Complete json call ∧ Standing json disk' .body call ∧
    Standing json disk' .metadata call
  saving : (Agent.save call stage').isSaving = true →
    (Agent.save call stage).isSaving = true ∨ stage = .opening .body
  replacing : stage = .replacing .body → (Agent.save call stage').isReplacing = true

variable {json : Json} {disk disk' : CacheDir} {call : SaveCall} {stage stage' : SaveStage}
  {file offset size : ℕ}

theorem acted_opening (part : Part) (fits : SaveFits json disk call (.opening part)) :
    Acted json disk (disk.openWrite ⟨part, true⟩).2 call (.opening part)
      (.writing part (disk.openWrite ⟨part, true⟩).1 0) := by
  have written : Written json (disk.openWrite ⟨part, true⟩).2 part call
      (disk.openWrite ⟨part, true⟩).1 0 := ⟨names_openWrite, content_openWrite, Nat.zero_le _⟩
  refine ⟨?_, fun file xs settled => settled.openWrite rfl, fun _ => names_openWrite_of_ne nofun,
    fun _ => names_openWrite_of_ne nofun, nofun, fun _ => ?_, nofun⟩
  · cases part with
    | body => exact written
    | metadata =>
      have pending : Pending json disk .body call := fits
      exact ⟨pending.opened nofun, written⟩
  · cases part with
    | body => exact .inr rfl
    | metadata => exact .inl rfl

/-- The file that is being written, with what a stage of writing says besides. -/
theorem written_of_fits {part : Part} (fits : SaveFits json disk call (.writing part file offset)) :
    Written json disk part call file offset ∧
      (part = .metadata → Pending json disk .body call) := by
  cases part with
  | body => exact ⟨fits, nofun⟩
  | metadata => exact ⟨fits.2, fun _ => fits.1⟩

theorem acted_closed {part : Part} (fits : SaveFits json disk call (.writing part file offset))
    (ended : (((contentOf json call part).drop offset).take (size + 1)).isEmpty = true) :
    Acted json disk disk call (.writing part file offset) (closed json call part) := by
  obtain ⟨written, others⟩ := written_of_fits fits
  have pending := written.pending ended
  refine ⟨?_, fun _ _ settled => settled, fun _ => rfl, fun _ => rfl, nofun, fun _ => .inl rfl, nofun⟩
  · cases part with
    | body => exact pending
    | metadata =>
      unfold closed
      cases complete : (json.dump (stamped call)).2 with
      | none => exact ⟨others rfl, pending, complete⟩
      | some exc => trivial

theorem acted_writing {part : Part} (fits : SaveFits json disk call (.writing part file offset)) :
    let chunk := ((contentOf json call part).drop offset).take (size + 1)
    Acted json disk (disk.writeAt 0 file offset chunk) call (.writing part file offset)
      (.writing part file (offset + chunk.length)) := by
  intro chunk
  obtain ⟨written, others⟩ := written_of_fits fits
  have next := written.next size
  refine ⟨?_, fun _ _ settled => settled.writeAt (loose_tmp part) written.named,
    fun _ => rfl, fun _ => rfl, nofun, fun _ => .inl rfl, nofun⟩
  cases part with
  | body => exact next
  | metadata =>
    have apart : Part.body ≠ .metadata := nofun
    exact ⟨(others rfl).written apart written.named, next⟩

/-- A replacement settles the file that was written. -/
theorem standing_replace {part : Part} (pending : Pending json disk part call)
    (moved : disk.replace ⟨part, true⟩ ⟨part, false⟩ = some disk') :
    Standing json disk' part call := by
  obtain ⟨file, named, content⟩ := pending
  obtain ⟨inPlace, -⟩ := names_replace (distinct_tmp part) moved
  refine ⟨file, inPlace.trans named, ?_⟩
  rw [← content]
  exact settled_replace named rfl (fixed part) moved

theorem acted_replacing_body (fits : SaveFits json disk call (.replacing .body))
    (moved : disk.replace ⟨.body, true⟩ ⟨.body, false⟩ = some disk') :
    Acted json disk disk' call (.replacing .body) (.replacing .metadata) := by
  obtain ⟨pendingBody, ⟨file, named, content⟩, complete⟩ := fits
  obtain ⟨-, -, others, same⟩ := names_replace (distinct_tmp .body) moved
  refine ⟨⟨standing_replace pendingBody moved, ⟨file, ?_, ?_⟩, complete⟩,
    fun _ _ settled => settled.replace (loose_tmp _) (fixed _) moved, fun ne => absurd rfl ne,
    fun _ => others _ nofun nofun, nofun, fun _ => .inl rfl, fun _ => rfl⟩
  · rw [others _ (by decide) (by decide)]
    exact named
  · rw [Disk.content, same]
    exact content

theorem acted_replacing_metadata (fits : SaveFits json disk call (.replacing .metadata))
    (moved : disk.replace ⟨.metadata, true⟩ ⟨.metadata, false⟩ = some disk') :
    Acted json disk disk' call (.replacing .metadata) .saved := by
  obtain ⟨body, pending, complete⟩ := fits
  obtain ⟨-, -, others, -⟩ := names_replace (distinct_tmp .metadata) moved
  have settled : ∀ file xs, Settled loose disk file xs → Settled loose disk' file xs :=
    fun _ _ settled => settled.replace (loose_tmp _) (fixed _) moved
  have same : disk'.names ⟨.body, false⟩ = disk.names ⟨.body, false⟩ := others _ nofun nofun
  exact ⟨trivial, settled, fun _ => same, fun ne => absurd rfl ne,
    fun _ => ⟨complete, body.mono settled same, standing_replace pending moved⟩, nofun, nofun⟩

/-- The temporary file that is to be moved is there. -/
theorem pending_of_replacing {part : Part} (fits : SaveFits json disk call (.replacing part)) :
    Pending json disk part call := by
  cases part with
  | body => exact fits.1
  | metadata => exact fits.2.1

theorem acted_of_actSave (fits : SaveFits json disk call stage)
    (acted : actSave json disk size call stage = some (stage', disk')) :
    Acted json disk disk' call stage stage' := by
  cases stage with
  | opening part =>
    cases acted
    exact acted_opening part fits
  | writing part file offset =>
    unfold actSave at acted
    dsimp only at acted
    split at acted
    · next ended =>
      cases acted
      exact acted_closed fits ended
    · cases acted
      exact acted_writing fits
  | replacing part =>
    obtain ⟨file, named, -⟩ := pending_of_replacing fits
    obtain ⟨disk'', moved⟩ := replace_isSome ⟨part, false⟩ named
    unfold actSave at acted
    dsimp only at acted
    rw [moved] at acted
    cases acted
    cases part with
    | body => exact acted_replacing_body fits moved
    | metadata => exact acted_replacing_metadata fits moved
  | saved => cases acted
  | stopped => cases acted

end Saves

section Loads

variable {json : Json} {disk disk' : CacheDir} {call : LoadCall} {stage stage' : LoadStage}
  {given given' : SaveCall → Prop} {size : ℕ}

theorem LoadFits.mono (fits : LoadFits json given disk stage) (more : ∀ saved, given saved → given' saved)
    (settled : ∀ file xs, Settled loose disk file xs → Settled loose disk' file xs)
    (same : (Agent.load call stage).isBetween = true →
      disk'.names ⟨.body, false⟩ = disk.names ⟨.body, false⟩) : LoadFits json given' disk' stage := by
  cases stage with
  | readingMeta file acc =>
    obtain ⟨saved, isGiven, complete, here, front, body⟩ := fits
    exact ⟨saved, more _ isGiven, complete, settled _ _ here, front, body.mono settled (same rfl)⟩
  | openingBody metadata =>
    obtain ⟨saved, isGiven, agrees, body⟩ := fits
    exact ⟨saved, more _ isGiven, agrees, body.mono settled (same rfl)⟩
  | readingBody file acc metadata =>
    obtain ⟨saved, isGiven, agrees, here, front⟩ := fits
    exact ⟨saved, more _ isGiven, agrees, settled _ _ here, front⟩
  | returned result =>
    cases result with
    | none => trivial
    | some entry =>
      obtain ⟨saved, isGiven, whole, agrees⟩ := fits
      exact ⟨saved, more _ isGiven, whole, agrees⟩
  | _ => trivial

/-- What is read back is what was written, up to the mark of age. -/
theorem agrees_of_readBack {saved : SaveCall} {metadata : Fields} (complete : Complete json saved)
    (read : readBack json call (contentOf json saved .metadata) = some metadata) :
    Agrees metadata saved := by
  have written : json.dump (stamped saved) = (contentOf json saved .metadata, none) :=
    Prod.ext rfl complete
  unfold readBack at read
  rw [json.lossless _ _ written] at read
  have stamps : ∀ key, key ≠ "fetched_at_epoch" →
      Fields.get (stamped saved).entries key = saved.metadata.get key := fun key other =>
    PyDict.get_set_of_ne _ _ other.symm
  have marks : ∀ key, key ≠ "fetched_at_epoch" → key ≠ "_stale" →
      Fields.get (assocSet "_stale" (.bool true) (stamped saved).entries) key =
        saved.metadata.get key := fun key other unmarked => by
    rw [← stamps key other, Fields.get, assocGet_assocSet, if_neg unmarked.symm, Fields.get]
  intro key other unmarked
  dsimp only at read
  split at read
  · split at read
    · split at read
      · cases read
        exact marks key other unmarked
      · cases read
        exact stamps key other
    · cases read
  · cases read
    exact stamps key other

/-- What was read so far stays in front of the file when a chunk is read behind it. -/
theorem prefix_next {file : ℕ} {xs acc : List UInt8} (here : Settled loose disk file xs)
    (front : acc <+: xs) : acc ++ nextChunk disk size file acc <+: xs := by
  unfold nextChunk
  rw [content_eq here.here]
  obtain ⟨rest, rfl⟩ := front
  rw [List.drop_left]
  exact (List.prefix_append_right_inj acc).mpr (List.take_prefix _ _)

theorem eq_of_ended {file : ℕ} {xs acc : List UInt8} (here : Settled loose disk file xs)
    (front : acc <+: xs) (ended : (nextChunk disk size file acc).isEmpty = true) : acc = xs := by
  unfold nextChunk at ended
  rw [content_eq here.here] at ended
  obtain ⟨rest, rfl⟩ := front
  rw [List.drop_left, List.isEmpty_iff, List.take_eq_nil_iff] at ended
  rw [ended.resolve_left (Nat.succ_ne_zero size), List.append_nil]

theorem fits_of_actLoad (fits : LoadFits json given disk stage)
    (paired : stage = .openingMeta → Paired json given disk)
    (acted : actLoad json disk size call stage = some stage') : LoadFits json given disk stage' := by
  cases stage with
  | checking part =>
    cases part <;> cases acted <;> split <;> trivial
  | openingMeta =>
    unfold actLoad at acted
    dsimp only at acted
    split at acted
    · next file named =>
      cases acted
      rcases paired rfl with none' | ⟨saved, isGiven, complete, body, own, here, stands⟩
      · rw [named] at none'
        cases none'
      · obtain rfl : own = file := Option.some.inj (here.symm.trans named)
        exact ⟨saved, isGiven, complete, stands, List.nil_prefix, body⟩
    · cases acted
      trivial
  | readingMeta file acc =>
    obtain ⟨saved, isGiven, complete, here, front, body⟩ := fits
    unfold actLoad at acted
    dsimp only at acted
    split at acted
    · next ended =>
      rw [eq_of_ended here front ended] at acted
      cases read : readBack json call (contentOf json saved .metadata) with
      | none =>
        rw [read] at acted
        cases acted
        trivial
      | some metadata =>
        rw [read] at acted
        cases acted
        exact ⟨saved, isGiven, agrees_of_readBack complete read, body⟩
    · cases acted
      exact ⟨saved, isGiven, complete, here, prefix_next here front, body⟩
  | openingBody metadata =>
    obtain ⟨saved, isGiven, agrees, file, named, stands⟩ := fits
    unfold actLoad at acted
    dsimp only at acted
    rw [named] at acted
    cases acted
    exact ⟨saved, isGiven, agrees, stands, List.nil_prefix⟩
  | readingBody file acc metadata =>
    obtain ⟨saved, isGiven, agrees, here, front⟩ := fits
    unfold actLoad at acted
    dsimp only at acted
    split at acted
    · next ended =>
      cases acted
      exact ⟨saved, isGiven, eq_of_ended here front ended, agrees⟩
    · cases acted
      exact ⟨saved, isGiven, agrees, here, prefix_next here front⟩
  | returned result => cases acted
  | stopped => cases acted

end Loads

section Runs

/-- At most one save is at the files, every process is where its stage says, and the files in
their places belong together unless one of them is just being replaced. -/
structure Sound (json : Json) (s : State) : Prop where
  single : ∀ (i j : ℕ) (a b : Agent), s.agents[i]? = some a → s.agents[j]? = some b → a.isSaving = true →
    b.isSaving = true → i = j
  fits : ∀ agent ∈ s.agents, Fits json (Given s) s.disk agent
  paired : (∀ agent ∈ s.agents, agent.isReplacing = false) → Paired json (Given s) s.disk

theorem sound_start (json : Json) : Sound json {} where
  single _ _ _ _ here := by cases here
  fits _ mem := by cases mem
  paired _ := .inl rfl

variable {json : Json} {s s' : State}

theorem Fits.given {given given' : SaveCall → Prop} {disk : CacheDir} {agent : Agent}
    (fits : Fits json given disk agent) (more : ∀ saved, given saved → given' saved) :
    Fits json given' disk agent := by
  cases agent with
  | save call stage => exact fits
  | load call stage =>
    exact LoadFits.mono fits more (fun _ _ settled => settled)
      fun (_ : (Agent.load call stage).isBetween = true) => rfl

theorem Paired.given {given given' : SaveCall → Prop} {disk : CacheDir}
    (paired : Paired json given disk) (more : ∀ saved, given saved → given' saved) :
    Paired json given' disk := by
  rcases paired with none' | ⟨saved, isGiven, rest⟩
  · exact .inl none'
  · exact .inr ⟨saved, more _ isGiven, rest⟩

/-- A new process has done nothing yet. -/
theorem sound_begins (sound : Sound json s) {agent : Agent} (idle : agent.isSaving = false)
    (fits : ∀ given, Fits json given s.disk agent) :
    Sound json { s with agents := s.agents ++ [agent] } := by
  have more : ∀ saved, Given s saved → Given { s with agents := s.agents ++ [agent] } saved :=
    fun saved ⟨stage, mem⟩ => ⟨stage, List.mem_append_left _ mem⟩
  have old : ∀ (i : ℕ) (a : Agent), (s.agents ++ [agent])[i]? = some a → a.isSaving = true →
      s.agents[i]? = some a := by
    intro i a here saving
    by_cases bound : i < s.agents.length
    · rwa [List.getElem?_append_left bound] at here
    · rw [List.getElem?_append_right (Nat.le_of_not_lt bound)] at here
      have mem := List.mem_singleton.mp (List.mem_of_getElem? here)
      rw [mem, idle] at saving
      cases saving
  refine ⟨fun i j a b here there saving saving' => ?_, fun other mem => ?_, fun none' => ?_⟩
  · exact sound.single i j a b (old i a here saving) (old j b there saving') saving saving'
  · rcases List.mem_append.mp mem with before | new
    · exact (sound.fits other before).given more
    · rw [List.mem_singleton.mp new]
      exact fits _
  · exact (sound.paired fun other mem => none' other (List.mem_append_left _ mem)).given more

/-- The same calls are made once a process has gone on. -/
theorem given_set {i : ℕ} {agent agent' : Agent} {disk : CacheDir} (here : s.agents[i]? = some agent)
    (same : ∀ call stage, agent = .save call stage → ∃ stage', agent' = .save call stage')
    {saved : SaveCall} (isGiven : Given s saved) :
    Given { disk := disk, agents := s.agents.set i agent' } saved := by
  obtain ⟨stage, mem⟩ := isGiven
  obtain ⟨j, there⟩ := List.getElem?_of_mem mem
  have bound : i < s.agents.length := (List.getElem?_eq_some_iff.mp here).1
  by_cases own : i = j
  · subst own
    obtain ⟨stage', rfl⟩ := same saved stage (Option.some.inj (here.symm.trans there))
    exact ⟨stage', List.mem_of_getElem? (List.getElem?_set_self bound)⟩
  · exact ⟨stage, List.mem_of_getElem? ((List.getElem?_set_ne own).trans there)⟩

/-- A process of the new state is the one that has gone on, or an old one in another place. -/
theorem of_getElem?_set {i j : ℕ} {agent other : Agent}
    (there : (s.agents.set i agent)[j]? = some other) :
    (i = j ∧ other = agent) ∨ (i ≠ j ∧ s.agents[j]? = some other) := by
  by_cases own : i = j
  · subst own
    have bound : i < s.agents.length := by
      have inside := (List.getElem?_eq_some_iff.mp there).1
      rwa [List.length_set] at inside
    rw [List.getElem?_set_self bound] at there
    exact .inl ⟨rfl, (Option.some.inj there).symm⟩
  · rw [List.getElem?_set_ne own] at there
    exact .inr ⟨own, there⟩

theorem saveFits_of_not_saving {disk : CacheDir} {call : SaveCall} {stage : SaveStage}
    (idle : (Agent.save call stage).isSaving = false) : SaveFits json disk call stage := by
  cases stage with
  | opening part =>
    cases part with
    | body => trivial
    | metadata => cases idle
  | writing part file offset => cases idle
  | replacing part => cases idle
  | saved => trivial
  | stopped => trivial

/-- While one save takes a step, no other is at the files. -/
theorem alone (sound : Sound json s) {i size : ℕ} {call : SaveCall} {stage stage' : SaveStage}
    {disk' : CacheDir} (here : s.agents[i]? = some (.save call stage))
    (condition : undisturbed s (.act i size) = true)
    (acted : actSave json s.disk size call stage = some (stage', disk')) {j : ℕ} {other : Agent}
    (ne : i ≠ j) (there : s.agents[j]? = some other) : other.isSaving = false := by
  have busy : (Agent.save call stage).isSaving = true → other.isSaving = false := by
    intro saving
    by_contra too
    rw [Bool.not_eq_false] at too
    exact ne (sound.single i j _ _ here there saving too)
  cases stage with
  | opening part =>
    cases part with
    | body =>
      unfold undisturbed at condition
      dsimp only at condition
      rw [here] at condition
      have all := List.all_eq_true.mp condition other (List.mem_of_getElem? there)
      simpa using all
    | metadata => exact busy rfl
  | writing part file offset => exact busy rfl
  | replacing part => exact busy rfl
  | saved => cases acted
  | stopped => cases acted

theorem unreplacing_of_ne {call : SaveCall} {stage : SaveStage}
    (ne : stage ≠ .replacing .metadata) : (Agent.save call stage).isReplacing = false := by
  cases stage with
  | replacing part =>
    cases part with
    | body => rfl
    | metadata => exact absurd rfl ne
  | opening part | writing part file offset | saved | stopped => rfl

theorem sound_actSave (sound : Sound json s) {i size : ℕ} {call : SaveCall}
    {stage stage' : SaveStage} {disk' : CacheDir} (here : s.agents[i]? = some (.save call stage))
    (condition : undisturbed s (.act i size) = true)
    (step : actSave json s.disk size call stage = some (stage', disk')) :
    Sound json { disk := disk', agents := s.agents.set i (.save call stage') } := by
  have acted := acted_of_actSave (sound.fits _ (List.mem_of_getElem? here)) step
  have bound : i < s.agents.length := (List.getElem?_eq_some_iff.mp here).1
  have more : ∀ saved, Given s saved →
      Given { disk := disk', agents := s.agents.set i (.save call stage') } saved :=
    fun saved isGiven => given_set here
      (fun call stage same => by cases same; exact ⟨stage', rfl⟩) isGiven
  have own : (Agent.save call stage') ∈ s.agents.set i (.save call stage') :=
    List.mem_of_getElem? (List.getElem?_set_self bound)
  refine ⟨fun j k a b atJ atK saving saving' => ?_, fun other mem => ?_, fun none' => ?_⟩
  · rcases of_getElem?_set atJ with ⟨rfl, rfl⟩ | ⟨notJ, oldJ⟩
    · rcases of_getElem?_set atK with ⟨rfl, -⟩ | ⟨notK, oldK⟩
      · rfl
      · rw [alone sound here condition step notK oldK] at saving'
        cases saving'
    · rw [alone sound here condition step notJ oldJ] at saving
      cases saving
  · obtain ⟨j, there⟩ := List.getElem?_of_mem mem
    rcases of_getElem?_set there with ⟨-, rfl⟩ | ⟨ne, old⟩
    · exact acted.fits
    · have idle := alone sound here condition step ne old
      cases other with
      | save call' stage'' => exact saveFits_of_not_saving idle
      | load call' stage'' =>
        refine LoadFits.mono (sound.fits _ (List.mem_of_getElem? old)) more acted.settled
          fun (between : (Agent.load call' stage'').isBetween = true) => acted.body ?_
        rintro rfl
        unfold undisturbed at condition
        dsimp only at condition
        rw [here] at condition
        have all := List.all_eq_true.mp condition _ (List.mem_of_getElem? old)
        rw [between] at all
        cases all
  · by_cases pairing : stage = .replacing .metadata
    · obtain ⟨complete, body, metadata⟩ := acted.pairs pairing
      exact .inr ⟨call, ⟨stage', own⟩, complete, body, metadata⟩
    · have notBody : stage ≠ .replacing .body := by
        intro replacing
        have replaced := none' _ own
        rw [acted.replacing replacing] at replaced
        cases replaced
      have before : ∀ agent ∈ s.agents, agent.isReplacing = false := by
        intro agent mem
        obtain ⟨j, there⟩ := List.getElem?_of_mem mem
        by_cases same : i = j
        · subst same
          obtain rfl := Option.some.inj (here.symm.trans there)
          exact unreplacing_of_ne pairing
        · exact none' agent (List.mem_of_getElem? ((List.getElem?_set_ne same).trans there))
      rcases sound.paired before with none'' | ⟨saved, isGiven, complete, body, metadata⟩
      · exact .inl ((acted.metadata pairing).trans none'')
      · exact .inr ⟨saved, more _ isGiven, complete, body.mono acted.settled (acted.body notBody),
          metadata.mono acted.settled (acted.metadata pairing)⟩

/-- A process that is not at the files goes on, and the directory stays. -/
theorem sound_set (sound : Sound json s) {i : ℕ} {agent agent' : Agent}
    (here : s.agents[i]? = some agent) (idle : agent'.isSaving = false)
    (unreplacing : agent.isReplacing = false) (fits : Fits json (Given s) s.disk agent')
    (same : ∀ call stage, agent = .save call stage → ∃ stage', agent' = .save call stage') :
    Sound json { s with agents := s.agents.set i agent' } := by
  have more : ∀ saved, Given s saved → Given { s with agents := s.agents.set i agent' } saved :=
    fun saved isGiven => given_set here same isGiven
  refine ⟨fun j k a b atJ atK saving saving' => ?_, fun other mem => ?_, fun none' => ?_⟩
  · rcases of_getElem?_set atJ with ⟨-, rfl⟩ | ⟨-, oldJ⟩
    · rw [idle] at saving
      cases saving
    · rcases of_getElem?_set atK with ⟨-, rfl⟩ | ⟨-, oldK⟩
      · rw [idle] at saving'
        cases saving'
      · exact sound.single j k a b oldJ oldK saving saving'
  · obtain ⟨j, there⟩ := List.getElem?_of_mem mem
    rcases of_getElem?_set there with ⟨-, rfl⟩ | ⟨-, old⟩
    · exact fits.given more
    · exact (sound.fits other (List.mem_of_getElem? old)).given more
  · refine (sound.paired fun other mem => ?_).given more
    obtain ⟨j, there⟩ := List.getElem?_of_mem mem
    by_cases own : i = j
    · subst own
      rw [← Option.some.inj (here.symm.trans there)]
      exact unreplacing
    · exact none' other (List.mem_of_getElem? ((List.getElem?_set_ne own).trans there))

theorem sound_actLoad (sound : Sound json s) {i size : ℕ} {call : LoadCall}
    {stage stage' : LoadStage} (here : s.agents[i]? = some (.load call stage))
    (condition : undisturbed s (.act i size) = true)
    (acted : actLoad json s.disk size call stage = some stage') :
    Sound json { s with agents := s.agents.set i (.load call stage') } := by
  refine sound_set sound here rfl rfl ?_ nofun
  refine fits_of_actLoad (sound.fits _ (List.mem_of_getElem? here)) ?_ acted
  rintro rfl
  refine sound.paired fun other mem => ?_
  unfold undisturbed at condition
  dsimp only at condition
  rw [here] at condition
  simpa using List.all_eq_true.mp condition other mem

theorem sound_stop (sound : Sound json s) {i : ℕ} {agent : Agent}
    (here : s.agents[i]? = some agent) (condition : undisturbed s (.stop i) = true) :
    Sound json { s with agents := s.agents.set i (stopAgent agent) } := by
  have unreplacing : agent.isReplacing = false := by
    unfold undisturbed at condition
    dsimp only at condition
    rw [here] at condition
    simpa using condition
  have fits := sound.fits agent (List.mem_of_getElem? here)
  cases agent with
  | save call stage =>
    cases stage with
    | saved =>
      refine sound_set sound here rfl unreplacing trivial fun call stage same => ?_
      cases same
      exact ⟨_, rfl⟩
    | _ =>
      refine sound_set sound here rfl unreplacing trivial fun call stage same => ?_
      cases same
      exact ⟨_, rfl⟩
  | load call stage =>
    cases stage with
    | returned result => exact sound_set sound here rfl unreplacing fits nofun
    | _ => exact sound_set sound here rfl unreplacing trivial nofun

theorem sound_step (sound : Sound json s) {event : Event} (condition : undisturbed s event = true)
    (stepped : step json s event = some s') : Sound json s' := by
  cases event with
  | save call =>
    cases stepped
    exact sound_begins sound rfl fun _ => trivial
  | load call =>
    cases stepped
    exact sound_begins sound rfl fun _ => trivial
  | act i size =>
    obtain ⟨agent, here, rest⟩ := Option.bind_eq_some_iff.mp stepped
    obtain ⟨⟨agent', disk'⟩, acts, rest⟩ := Option.bind_eq_some_iff.mp rest
    cases rest
    cases agent with
    | save call stage =>
      obtain ⟨⟨stage', disk'⟩, acted, same⟩ := Option.map_eq_some_iff.mp acts
      cases same
      exact sound_actSave sound here condition acted
    | load call stage =>
      obtain ⟨stage', acted, same⟩ := Option.map_eq_some_iff.mp acts
      cases same
      exact sound_actLoad sound here condition acted
  | stop i =>
    obtain ⟨agent, here, rest⟩ := Option.bind_eq_some_iff.mp stepped
    cases rest
    exact sound_stop sound here condition

theorem sound_of_reaches {trace : List (State × Event)} (reached : Reaches json trace s)
    (condition : ∀ e ∈ trace, undisturbed e.1 e.2 = true) : Sound json s := by
  refine reached.invariant (I := fun _ s => Sound json s) (C := fun s e => undisturbed s e = true)
    condition ?_ fun _ s event s' sound met stepped => sound_step sound met stepped
  rintro _ rfl
  exact sound_start json

/-- Whatever the saves and loads do at once and wherever they crash: while no step disturbs
another save or a load that is half way, a load returns what one save was given. -/
theorem loads_whole {trace : List (State × Event)} (reached : Reaches json trace s)
    (condition : ∀ e ∈ trace, undisturbed e.1 e.2 = true) : Untorn s := by
  intro call body metadata mem
  exact (sound_of_reaches reached condition).fits _ mem

end Runs

section Samples

def tag (metadata : Fields) : Option String :=
  match Fields.get metadata "etag" with
  | some (.str text) => some text
  | _ => none

def sampleMeta (text : String) : Meta := PyDict.empty.set "etag" (.str text)

def sampleEntries (text : String) : Fields :=
  [("etag", .str text), ("fetched_at_epoch", .float ⟨0, "0.0"⟩)]

def sampleText (text : String) : List UInt8 :=
  ("\x7b\n  \"etag\": \"" ++ text ++ "\",\n  \"fetched_at_epoch\": 0.0\n\x7d").toList.map
    fun c => c.toNat.toUInt8

/-- The texts of two dicts; what else there is to write is refused. -/
def sampleJson : Json where
  dump metadata :=
    match metadata.entries with
    | [(key, .str text), (key', .float x)] =>
      if key = "etag" ∧ key' = "fetched_at_epoch" ∧ x = ⟨0, "0.0"⟩ ∧ (text = "a" ∨ text = "b") then
        (sampleText text, none)
      else ([], some (SthBoring.Lib.PyValue.typeError "Object is not JSON serializable"))
    | _ => ([], some (SthBoring.Lib.PyValue.typeError "Object is not JSON serializable"))
  load text :=
    if text = sampleText "a" then .ok (.dict (sampleEntries "a"))
    else if text = sampleText "b" then .ok (.dict (sampleEntries "b"))
    else .error (SthBoring.Lib.PyValue.valueError "Expecting value")
  lossless metadata text written := by
    split at written
    · next key value key' x entries =>
      split at written
      · next isSample =>
        obtain ⟨rfl, rfl, rfl, isText⟩ := isSample
        cases written
        rw [entries]
        rcases isText with rfl | rfl
        · rw [if_pos rfl]
          rfl
        · have other : sampleText "b" ≠ sampleText "a" := by decide +kernel
          rw [if_neg other, if_pos rfl]
          rfl
      · cases written
    · cases written

def sampleSave (octet : UInt8) (text : String) : SaveCall where
  body := [octet]
  metadata := sampleMeta text
  now := ⟨0, "0.0"⟩

def acts (agent count : ℕ) : List Event := List.replicate count (.act agent 99)

/-- Two saves one after the other, and a load. -/
def orderlyEvents : List Event :=
  .save (sampleSave 65 "a") :: acts 0 8 ++ .save (sampleSave 66 "b") :: acts 1 8 ++
    .load ⟨3600, 1⟩ :: acts 2 8

/-- The same, but the load comes between the replacements of the second save. -/
def tornEvents : List Event :=
  .save (sampleSave 65 "a") :: acts 0 8 ++ .save (sampleSave 66 "b") :: acts 1 7 ++
    .load ⟨3600, 1⟩ :: acts 2 8

/-- What the third process, a load, returned. -/
def loaded (s : State) : Option (List UInt8 × Option String) :=
  match s.agents with
  | [_, _, .load _ (.returned (some (body, metadata)))] => some (body, tag metadata)
  | _ => none

theorem loads_whole_orderly : ∃ trace s, Reaches sampleJson trace s ∧
    loaded s = some ([66], some "b") ∧ Untorn s := by
  have ran : (run (step sampleJson) orderlyEvents {}).any (fun r =>
      loaded r.2 = some ([66], some "b") ∧ ∀ e ∈ r.1, undisturbed e.1 e.2 = true) = true := by
    decide +kernel
  obtain ⟨⟨trace, s⟩, ended, holds⟩ := (Option.any_eq_true _ _).mp ran
  obtain ⟨returned, condition⟩ := of_decide_eq_true holds
  have start : Reaches sampleJson [] {} := .start rfl
  have reached := start.run ended
  exact ⟨_, s, reached, returned, loads_whole reached condition⟩

/-- The load has the body of one save and the metadata of another. -/
def mixed (s : State) : Bool :=
  match s.agents with
  | [.save old _, .save new _, .load _ (.returned (some (body, metadata)))] =>
    body == new.body && body != old.body && tag metadata == some "a" &&
      tag new.metadata.entries == some "b"
  | _ => false

theorem not_untorn_of_mixed {s : State} (isMixed : mixed s = true) : ¬ Untorn s := by
  intro untorn
  unfold mixed at isMixed
  split at isMixed
  · next old stage new stage' call body metadata agents =>
    simp only [Bool.and_eq_true, beq_iff_eq, bne_iff_ne] at isMixed
    obtain ⟨⟨⟨isNew, notOld⟩, oldTag⟩, newTag⟩ := isMixed
    obtain ⟨saved, ⟨stage'', mem⟩, whole, agrees⟩ := untorn call body metadata (by simp [agents])
    rw [agents] at mem
    simp only [List.mem_cons, Agent.save.injEq, reduceCtorEq, List.not_mem_nil, or_false] at mem
    rcases mem with ⟨rfl, -⟩ | ⟨rfl, -⟩
    · exact notOld whole
    · have same := agrees "etag" (by decide) (by decide)
      unfold tag at oldTag newTag
      rw [same] at oldTag
      change (match saved.metadata.get "etag" with
        | some (.str text) => some text
        | _ => none) = some "b" at newTag
      rw [oldTag] at newTag
      exact absurd newTag (by decide)
  · cases isMixed

/-- A load between the two replacements: the new body under the old metadata. -/
theorem torn_entry : ∃ trace s, Reaches sampleJson trace s ∧
    loaded s = some ([66], some "a") ∧ ¬ Untorn s := by
  have ran : (run (step sampleJson) tornEvents {}).any (fun r =>
      loaded r.2 = some ([66], some "a") ∧ mixed r.2 = true) = true := by
    decide +kernel
  obtain ⟨⟨trace, s⟩, ended, holds⟩ := (Option.any_eq_true _ _).mp ran
  obtain ⟨returned, isMixed⟩ := of_decide_eq_true holds
  have start : Reaches sampleJson [] {} := .start rfl
  exact ⟨_, s, start.run ended, returned, not_untorn_of_mixed isMixed⟩

end Samples

end SthBoring.WebKit.TornEntries
