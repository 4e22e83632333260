import Renaming.Proofs.Files.Disk

/-!
# Disks whose files stand in directories

Where every file stands in a directory, a path without double dots leads to something only if all
directories along it are there. So directories that are made above a file do not make a path lead to
it that led nowhere before (`exists?_of_deep`).
-/

namespace Renaming.Disk

open Files

variable {d d' : Disk} {path : String} {place place' : List String} {steps : List String}

/-- Whatever stands on the disk stands in a directory. -/
def Rooted (d : Disk) : Prop :=
  ∀ place name, (d.get? (place ++ [name])).isSome = true → d.get? place = some .directory

theorem Rooted.directory (h : d.Rooted) {rest : List String} (hrest : rest ≠ [])
    (hget : (d.get? (place ++ rest)).isSome = true) : d.get? place = some .directory := by
  induction rest generalizing place with
  | nil => exact absurd rfl hrest
  | cons name rest ih =>
    apply h place name
    rw [← List.singleton_append, ← List.append_assoc] at hget
    by_cases hnil : rest = []
    · rwa [hnil, List.append_nil] at hget
    · rw [ih hnil hget]
      rfl

/-- Steps without double dots only lead further down, through directories. -/
theorem enter_down (hdots : ".." ∉ steps) (h : d.enter place steps = .ok place') :
    place' = place ++ undotted steps ∧
      (undotted steps ≠ [] → d.get? place' = some .directory) := by
  induction steps generalizing place with
  | nil =>
    cases h
    exact ⟨by simp [undotted], fun hne => absurd rfl hne⟩
  | cons step steps ih =>
    have hrest : ".." ∉ steps := fun hmem => hdots (List.mem_cons_of_mem _ hmem)
    rw [enter_cons] at h
    obtain ⟨next, hstep, h⟩ := bind_eq_ok h
    obtain ⟨hplace, hdirectory⟩ := ih hrest h
    rcases advance_eq_ok hstep with ⟨rfl, rfl⟩ | ⟨rfl, -⟩ | ⟨hdot, -, -, rfl, hget⟩
    · exact ⟨hplace, hdirectory⟩
    · exact absurd (List.mem_cons_self ..) hdots
    · rw [undotted_cons hdot]
      refine ⟨by rw [hplace, List.append_assoc, List.singleton_append], fun _ => ?_⟩
      by_cases hnil : undotted steps = []
      · rwa [hplace, hnil, List.append_nil]
      · exact hdirectory hnil

theorem enter_of_directories (hdots : ".." ∉ steps) (h : d'.enter place steps = .ok place')
    (hdirectory : ∀ names, names ≠ [] → names <+: undotted steps →
      d.get? (place ++ names) = some .directory) : d.enter place steps = .ok place' := by
  induction steps generalizing place with
  | nil => exact h
  | cons step steps ih =>
    have hrest : ".." ∉ steps := fun hmem => hdots (List.mem_cons_of_mem _ hmem)
    rw [enter_cons] at h ⊢
    obtain ⟨next, hstep, h⟩ := bind_eq_ok h
    rcases advance_eq_ok hstep with ⟨rfl, rfl⟩ | ⟨rfl, -⟩ | ⟨hdot, hne, hlong, rfl, -⟩
    · exact ih hrest h hdirectory
    · exact absurd (List.mem_cons_self ..) hdots
    · rw [undotted_cons hdot] at hdirectory
      have hget := hdirectory [step] (List.cons_ne_nil _ _) (by simp)
      rw [advance_name hdot hne hlong hget]
      refine ih hrest h fun names hnames hbegin => ?_
      rw [List.append_assoc]
      exact hdirectory ([step] ++ names) (by simp) (by simpa using hbegin)

theorem Rooted.of_prefix (h : d.Rooted) {names names' : List String}
    (hget : d.get? (place ++ names') = some .directory) (hbegin : names <+: names') :
    d.get? (place ++ names) = some .directory := by
  obtain ⟨rest, rfl⟩ := hbegin
  by_cases hnil : rest = []
  · rwa [hnil, List.append_nil] at hget
  · rw [← List.append_assoc] at hget
    exact h.directory hnil (by rw [hget]; rfl)

/-- Steps that can be taken on another disk can be taken where the last directory is there. -/
theorem Rooted.enter (h : d.Rooted) (hdots : ".." ∉ steps)
    (henter : d'.enter place steps = .ok place')
    (hthere : undotted steps ≠ [] → d.get? place' = some .directory) :
    d.enter place steps = .ok place' := by
  refine enter_of_directories hdots henter fun names hnames hbegin => ?_
  have hne : undotted steps ≠ [] := by
    rintro hnil
    exact hnames (List.prefix_nil.mp (hnil ▸ hbegin))
  have hlast := hthere hne
  rw [(enter_down hdots henter).1] at hlast
  exact h.of_prefix hlast hbegin

/-- A path without double dots leads to the directory that its steps lead to, or to a name in the
directory that the steps before the name lead to. -/
theorem target_cases (hdots : ".." ∉ Files.steps path) {t : Target} (h : d.target path = .ok t) :
    d.enter (d.start path) (Files.steps path) = .ok t.directory ∨
      ∃ before last, Files.steps path = before ++ [last] ∧ last ≠ "." ∧
        d.enter (d.start path) before = .ok t.directory ∧
        t = ⟨t.directory, some last, endsInSlash path⟩ := by
  obtain ⟨hrefusal, directory, henter, -⟩ := target_eq_ok h
  rcases List.eq_nil_or_concat (Files.steps path) with hsteps | ⟨before, last, hsteps⟩
  · left
    unfold target at h
    rw [hrefusal, hsteps] at h
    obtain rfl := Except.ok.inj h
    rw [hsteps]
    rfl
  · rw [List.concat_eq_append] at hsteps
    rw [hsteps, List.dropLast_concat] at henter
    have hlast : last ≠ ".." := by
      rintro rfl
      exact hdots (hsteps ▸ List.mem_append_right _ (List.mem_singleton_self _))
    rw [target_concat hrefusal hsteps henter] at h
    by_cases hdot : last = "."
    · rw [if_pos hdot] at h
      obtain rfl := Except.ok.inj h
      left
      rw [hsteps, enter_append, henter, hdot]
      rfl
    · rw [if_neg hdot, if_neg hlast] at h
      split at h
      · cases h
      · obtain rfl := Except.ok.inj h
        exact .inr ⟨before, last, hsteps, hdot, henter, rfl⟩

theorem isSome_get?_of_exists {name : String} {slash : Bool}
    (htarget : d.target path = .ok ⟨place, some name, slash⟩) (hexists : d.exists? path = true) :
    (d.get? (place ++ [name])).isSome = true := by
  rw [exists?, node_of_target htarget] at hexists
  cases hget : d.get? (place ++ [name]) with
  | some node => rfl
  | none =>
    rw [hget] at hexists
    cases hexists

/-- What a path leads to was there before if nothing was put where its steps lead to. -/
theorem Rooted.exists?_of_deep (h : d.Rooted) (hdots : ".." ∉ Files.steps path)
    (hhere : d'.here = d.here)
    (hdeep : d'.get? (d.start path ++ undotted (Files.steps path)) =
      d.get? (d.start path ++ undotted (Files.steps path)))
    (hexists : d'.exists? path = true) : d.exists? path = true := by
  have hstart : d'.start path = d.start path := by rw [start, hhere, start]
  obtain ⟨t, htarget⟩ := exists_target hexists
  have hrefusal := (target_eq_ok htarget).1
  rcases target_cases hdots htarget with henter' | ⟨before, last, hsteps, hdot, henter', ht⟩
  · rw [hstart] at henter'
    obtain ⟨hplace, hget⟩ := enter_down hdots henter'
    rw [← hplace] at hdeep
    have henter := h.enter hdots henter' fun hne => hdeep ▸ hget hne
    exact exists?_iff.mpr ⟨_, node_of_enter hrefusal henter⟩
  · have htarget' := target_concat hrefusal hsteps henter'
    rw [hstart] at henter'
    rw [ht] at htarget
    have hbefore : ".." ∉ before := fun hmem => hdots (hsteps ▸ List.mem_append_left _ hmem)
    rw [hsteps, undotted_concat _ hdot, ← List.append_assoc,
      ← (enter_down hbefore henter').1] at hdeep
    have hsome := hdeep ▸ isSome_get?_of_exists htarget hexists
    -- The directory is there, as something stands in it.
    have henter := h.enter hbefore henter' fun _ => h _ _ hsome
    rw [← target_concat hrefusal hsteps henter] at htarget'
    rwa [exists?, node_of_target (htarget'.symm.trans htarget), ← hdeep,
      ← node_of_target htarget]

end Renaming.Disk
