import ClassChart.Proofs.Build.Fates
import ClassChart.Proofs.Chart.Draft
import Mathlib.Data.List.Perm.Basic

/-! The books of a build. Every declaration that the filters let through is kept in its group or has
a note of its own, and every group has its box, or a note that its name is taken, or a note that it
cannot be merged. What a note is about is read off its stage, its severity and how its message
opens. -/
namespace ClassChart

inductive NoteSort where
  | duplicate | taken | failure
  deriving DecidableEq

def Diagnostic.sort? (d : Diagnostic) : Option NoteSort :=
  match d.stage, d.severity with
  | .merge, .error => some .failure
  | .merge, .warning =>
    if "Duplicate declaration of ".toList.isPrefixOf d.message.toList then some .duplicate
    else if "Type ".toList.isPrefixOf d.message.toList then some .taken
    else none
  | _, _ => none

def notesOfSort (sort : NoteSort) (notes : List Diagnostic) : List Diagnostic :=
  notes.filter (·.sort? = some sort)

theorem Remark.sort? {d : Diagnostic} (h : Remark d) : d.sort? = none := by
  cases h with
  | otherBase type kept source entry =>
    simp only [Diagnostic.sort?, Draft.otherBaseNote, String.toList_append]
    rfl
  | signature source decl e => rfl

theorem ReadFault.sort? (fault : ReadFault) : fault.diagnostic.sort? = none := rfl

namespace Build
variable {s : Settings} {units : List SourceUnit} {rules : MergeRules} {gs : List Group}
  {p : Progress}

theorem duplicateNote_sort? (q : String) (d : Declaration) :
    (duplicateNote q d).sort? = some .duplicate := by
  simp only [Diagnostic.sort?, duplicateNote, String.toList_append]
  rfl

theorem takenNote_sort? (q : String) (first : Declaration) (holder : Outline) :
    (takenNote q first holder).sort? = some .taken := by
  simp only [Diagnostic.sort?, takenNote, String.toList_append]
  rfl

theorem failureNote_sort? (q : String) (first : Declaration) (cause : String) :
    (failureNote q first cause).sort? = some .failure := rfl

theorem notesOfSort_append (sort : NoteSort) (ns ms : List Diagnostic) :
    notesOfSort sort (ns ++ ms) = notesOfSort sort ns ++ notesOfSort sort ms :=
  List.filter_append ..

theorem notesOfSort_of_all {sort : NoteSort} {other : Option NoteSort} {ns : List Diagnostic}
    (h : ∀ d ∈ ns, d.sort? = other) :
    notesOfSort sort ns = if other = some sort then ns else [] := by
  split
  · next heq => exact List.filter_eq_self.mpr fun d hd => by simp [h d hd, heq]
  · next hne => exact List.filter_eq_nil_iff.mpr fun d hd => by simp [h d hd, hne]

theorem notesOfSort_duplicates (sort : NoteSort) (q : String) (ds : List Declaration) :
    notesOfSort sort (ds.map (duplicateNote q)) =
      if sort = .duplicate then ds.map (duplicateNote q) else [] := by
  have hall : ∀ d ∈ ds.map (duplicateNote q), d.sort? = some .duplicate := by
    intro d hd
    obtain ⟨c, _, rfl⟩ := List.mem_map.mp hd
    exact duplicateNote_sort? q c
  rw [notesOfSort_of_all hall]
  simp [eq_comm]

theorem notesOfSort_taken (sort : NoteSort) (q : String) (first : Declaration) (holder : Outline) :
    notesOfSort sort [takenNote q first holder] =
      if sort = .taken then [takenNote q first holder] else [] := by
  have hall : ∀ d ∈ [takenNote q first holder], d.sort? = some .taken := by
    simp [takenNote_sort?]
  rw [notesOfSort_of_all hall]
  simp [eq_comm]

theorem notesOfSort_merge (sort : NoteSort) (q : String) (first : Declaration)
    (ds : List Declaration) :
    notesOfSort sort (mergeNotes rules q first ds) =
      match (merge rules ds).outcome with
      | .ok _ => []
      | .error e => if sort = .failure then [failureNote q first e.message] else [] := by
  have hremarks : notesOfSort sort (merge rules ds).notes = [] :=
    notesOfSort_of_all fun d hd => (merge_notes_remarks d hd).sort?
  rw [mergeNotes, notesOfSort_append, hremarks, List.nil_append]
  cases (merge rules ds).outcome with
  | ok o => rfl
  | error e =>
    have hall : ∀ d ∈ [failureNote q first e.message], d.sort? = some .failure := by
      simp [failureNote_sort?]
    rw [notesOfSort_of_all hall]
    simp [eq_comm]

theorem notesOfSort_faults (sort : NoteSort) (units : List SourceUnit) :
    notesOfSort sort (faultNotes units) = [] := by
  have hall : ∀ d ∈ faultNotes units, d.sort? = none := by
    intro d hd
    obtain ⟨u, _, hmem⟩ := List.mem_flatMap.mp hd
    obtain ⟨fault, _, rfl⟩ := List.mem_map.mp hmem
    exact fault.sort?
  exact notesOfSort_of_all hall

theorem notesOfSort_notesOf (sort : NoteSort) (holder : Option Outline) (q : String)
    (first : Declaration) (rest : List Declaration) :
    notesOfSort sort (notesOf rules (holder, q, first :: rest)) =
      (if sort = .duplicate then (dropped (first :: rest)).map (duplicateNote q) else []) ++
        match holder, (merge rules (kept (first :: rest))).outcome with
        | some o, _ => if sort = .taken then [takenNote q first o] else []
        | none, .ok _ => []
        | none, .error e => if sort = .failure then [failureNote q first e.message] else [] := by
  rw [notesOf, notesOfSort_append, notesOfSort_duplicates]
  cases holder with
  | some o => exact congrArg _ (notesOfSort_taken sort q first o)
  | none =>
    have hmerge : notesOfSort sort (mergeNotes rules q first (kept (first :: rest))) = _ :=
      notesOfSort_merge ..
    cases houtcome : (merge rules (kept (first :: rest))).outcome with
    | ok o => exact congrArg _ (by simpa only [houtcome] using hmerge)
    | error e => exact congrArg _ (by simpa only [houtcome] using hmerge)

section
variable (h : Reached rules gs p)
include h

theorem Reached.notesOfSort_eq (sort : NoteSort) :
    notesOfSort sort p.notes =
      (turns rules [] gs).flatMap fun t => notesOfSort sort (notesOf rules t) := by
  rw [h.notes, notesOfSort, List.filter_flatMap]
  rfl

variable (hgs : ∀ g ∈ gs, ∃ first rest, g.2 = first :: rest)
include hgs

theorem Reached.duplicates : notesOfSort .duplicate p.notes =
    gs.flatMap fun g => (dropped g.2).map (duplicateNote g.1) := by
  have hgroups : gs.flatMap (fun g => (dropped g.2).map (duplicateNote g.1)) =
      ((turns rules [] gs).map (·.2)).flatMap fun g => (dropped g.2).map (duplicateNote g.1) := by
    rw [turns_groups]
  rw [h.notesOfSort_eq, hgroups, List.flatMap_map]
  refine List.flatMap_congr fun t ht => ?_
  obtain ⟨holder, q, ds⟩ := t
  obtain ⟨first, rest, rfl⟩ : ∃ first rest, ds = first :: rest := hgs _ (mem_of_turn ht)
  rw [notesOfSort_notesOf, if_pos rfl, List.append_right_eq_self]
  cases holder with
  | some o => rfl
  | none => cases (merge rules (kept (first :: rest))).outcome <;> rfl

theorem Reached.taken : List.Forall₂ (fun g note => ∃ first holder, g.2.head? = some first ∧
      p.chart.box? first.name = some holder ∧ note = takenNote g.1 first holder.outline)
    (fated rules gs .taken) (notesOfSort .taken p.notes) := by
  rw [h.notesOfSort_eq, fated, List.forall₂_map_left_iff]
  refine forall₂_flatMap (fun t ht htaken => ?_) (fun t ht hother => ?_)
  · obtain ⟨holder, q, ds⟩ := t
    obtain ⟨first, rest, rfl⟩ : ∃ first rest, ds = first :: rest := hgs _ (mem_of_turn ht)
    obtain ⟨o, rfl⟩ := Option.isSome_iff_exists.mp
      ((fate_taken_iff rules _ _).mp (of_decide_eq_true htaken))
    obtain ⟨b, hb, rfl⟩ : ∃ b, p.chart.box? first.name = some b ∧ b.outline = o := by
      have hholder := h.holder first.name
      rw [show holder? rules gs first.name = some o from holder?_of_turn ht] at hholder
      simpa using hholder
    exact ⟨_, notesOfSort_notesOf .taken (some b.outline) q first rest, first, b, rfl, hb, rfl⟩
  · obtain ⟨holder, q, ds⟩ := t
    obtain ⟨first, rest, rfl⟩ : ∃ first rest, ds = first :: rest := hgs _ (mem_of_turn ht)
    cases holder with
    | some o => simp [fate] at hother
    | none =>
      rw [notesOfSort_notesOf]
      cases (merge rules (kept (first :: rest))).outcome <;> rfl

theorem Reached.failed : List.Forall₂ (fun g note => ∃ first e, g.2.head? = some first ∧
      (merge rules (kept g.2)).outcome = .error e ∧ note = failureNote g.1 first e.message)
    (fated rules gs .failed) (notesOfSort .failure p.notes) := by
  rw [h.notesOfSort_eq, fated, List.forall₂_map_left_iff]
  refine forall₂_flatMap (fun t ht hfailed => ?_) (fun t ht hother => ?_)
  · obtain ⟨holder, q, ds⟩ := t
    obtain ⟨first, rest, rfl⟩ : ∃ first rest, ds = first :: rest := hgs _ (mem_of_turn ht)
    cases holder with
    | some o => simp [fate] at hfailed
    | none =>
      cases hmerge : (merge rules (kept (first :: rest))).outcome with
      | ok o => simp [fate, outline?, hmerge, Except.toOption] at hfailed
      | error e =>
        refine ⟨failureNote q first e.message, ?_, first, e, rfl, rfl, rfl⟩
        rw [notesOfSort_notesOf, hmerge]
        rfl
  · obtain ⟨holder, q, ds⟩ := t
    obtain ⟨first, rest, rfl⟩ : ∃ first rest, ds = first :: rest := hgs _ (mem_of_turn ht)
    rw [notesOfSort_notesOf]
    cases holder with
    | some o => rfl
    | none =>
      cases hmerge : (merge rules (kept (first :: rest))).outcome with
      | ok o => rfl
      | error e => simp [fate, outline?, hmerge, Except.toOption] at hother

end

/-- Which declarations of a group count: a lone one, or all if they are partial; otherwise the first
and, if it is partial, the other partial ones. -/
def counted : List Declaration → List Declaration
  | [] => []
  | first :: rest =>
    if rest = [] ∨ ∀ d ∈ first :: rest, d.isPartial then first :: rest
    else if first.isPartial then first :: rest.filter (·.isPartial) else [first]

theorem kept_eq_counted (ds : List Declaration) : kept ds = counted ds := by
  cases ds with
  | nil => rfl
  | cons first rest =>
    cases hfirst : first.isPartial with
    | true =>
      have hjoins : rest.filter (joins first) = rest.filter (·.isPartial) :=
        List.filter_congr fun d _ => by simp [joins, hfirst]
      rw [kept, counted, hjoins]
      split
      · next hall =>
        congr 1
        refine List.filter_eq_self.mpr fun d hd => ?_
        rcases hall with rfl | hall
        · simp at hd
        · exact hall d (List.mem_cons_of_mem first hd)
      · rfl
    | false =>
      have hnone : rest.filter (joins first) = [] :=
        List.filter_eq_nil_iff.mpr fun d _ => by simp [joins, hfirst]
      rw [kept, counted, hnone]
      split
      · next hall =>
        rcases hall with rfl | hall
        · rfl
        · simp [hall first List.mem_cons_self] at hfirst
      · simp [hfirst]

def accepted (s : Settings) (units : List SourceUnit) : List Declaration :=
  (declarationsOf units).filter (accepts s)

/-- The books of a build: each accepted declaration counts in its group or has a note of its own,
and each group has a box, a note that its name is taken, or a note that it cannot be merged. -/
structure Accounts (s : Settings) (units : List SourceUnit) (r : Report)
    (lost : List Declaration) (built taken failed : List Group) : Prop where
  declarations : (accepted s units).Perm ((groupsOf s units).flatMap (counted ·.2) ++ lost)
  duplicates : notesOfSort .duplicate r.diagnostics =
    lost.map fun d => duplicateNote d.qualifiedName d
  names : ((groupsOf s units).map (·.1)).Nodup
  groups : (built ++ taken ++ failed).Perm (groupsOf s units)
  in_order : built.Sublist (groupsOf s units) ∧ taken.Sublist (groupsOf s units) ∧
    failed.Sublist (groupsOf s units)
  boxes : List.Forall₂ (fun g b => b.outline.qualifiedName = g.1 ∧
    (merge (rulesOf s units) (counted g.2)).outcome = .ok b.outline) built r.chart.boxes
  taken_notes : List.Forall₂ (fun g note => ∃ first holder, g.2.head? = some first ∧
    r.chart.box? first.name = some holder ∧ note = takenNote g.1 first holder.outline)
    taken (notesOfSort .taken r.diagnostics)
  failure_notes : List.Forall₂ (fun g note => ∃ first e, g.2.head? = some first ∧
    (merge (rulesOf s units) (counted g.2)).outcome = .error e ∧
      note = failureNote g.1 first e.message)
    failed (notesOfSort .failure r.diagnostics)
  taken_iff : ∀ earlier g later, groupsOf s units = earlier ++ g :: later →
    (g ∈ taken ↔ ∃ h ∈ earlier, h ∈ built ∧ nameOf h = nameOf g)

theorem accepted_perm (s : Settings) (units : List SourceUnit) :
    (accepted s units).Perm ((groupsOf s units).flatMap (counted ·.2) ++
      (groupsOf s units).flatMap (dropped ·.2)) := by
  have hsplit : (groupsOf s units).flatMap (fun g => kept g.2 ++ dropped g.2) |>.Perm
      ((groupsOf s units).flatMap (·.2)) :=
    List.Perm.flatMap_left _ fun g _ => kept_append_dropped g.2
  simp only [← kept_eq_counted]
  exact ((List.flatMap_append_perm _ _ _).trans (hsplit.trans (groups_perm _))).symm

theorem mem_of_mem_dropped {ds : List Declaration} {d : Declaration} (h : d ∈ dropped ds) :
    d ∈ ds :=
  (kept_append_dropped ds).mem_iff.mp (List.mem_append_right _ h)

theorem duplicates_of_dropped (ds : List Declaration) :
    ((groups ds).flatMap fun g => (dropped g.2).map (duplicateNote g.1)) =
      ((groups ds).flatMap (dropped ·.2)).map fun d => duplicateNote d.qualifiedName d := by
  rw [List.map_flatMap]
  refine List.flatMap_congr fun g hg => List.map_congr_left fun d hd => ?_
  rw [(mem_of_mem_group hg (mem_of_mem_dropped hd)).2]

theorem Reached.accounts {r : Report} (h : Reached (rulesOf s units) (groupsOf s units) p)
    (hboxes : r.chart.boxes = p.chart.boxes)
    (hnotes : r.diagnostics = faultNotes units ++ p.notes) :
    Accounts s units r ((groupsOf s units).flatMap (dropped ·.2))
      (fated (rulesOf s units) (groupsOf s units) .built)
      (fated (rulesOf s units) (groupsOf s units) .taken)
      (fated (rulesOf s units) (groupsOf s units) .failed) := by
  have hcons : ∀ g ∈ groupsOf s units, ∃ first rest, g.2 = first :: rest :=
    fun g hg => group_eq_cons hg
  have hsort : ∀ sort, notesOfSort sort r.diagnostics = notesOfSort sort p.notes := by
    intro sort
    rw [hnotes, notesOfSort_append, notesOfSort_faults, List.nil_append]
  have hbox? : r.chart.box? = p.chart.box? := by
    funext name
    rw [Chart.box?, hboxes, Chart.box?]
  constructor
  · exact accepted_perm s units
  · rw [hsort, h.duplicates hcons]
    exact duplicates_of_dropped _
  · exact groups_nodup _
  · exact fated_perm _ _
  · exact ⟨fated_sublist _ _, fated_sublist _ _, fated_sublist _ _⟩
  · rw [hboxes]
    have hmem := (List.forall₂_and_left _ _).mpr
      ⟨fun g hg => (fated_sublist _ .built).mem hg, h.boxes_built⟩
    refine hmem.imp ?_
    rintro g b ⟨hg, ho⟩
    refine ⟨outline?_qualifiedName hg ho, ?_⟩
    rw [← kept_eq_counted]
    exact outline?_eq_some.mp ho
  · rw [hsort, hbox?]
    exact h.taken hcons
  · rw [hsort]
    simp only [← kept_eq_counted]
    exact h.failed hcons
  · intro earlier g later hsplit
    have hdistinct : (groupsOf s units).Nodup := (groups_nodup _).of_map _
    rw [hsplit] at hdistinct ⊢
    exact Build.taken_iff hdistinct

/-- No declaration is lost or counted twice, and no group either. -/
theorem everything_accounted (s : Settings) (units : List SourceUnit) :
    ∃ r lost built taken failed, ((Session.new s).buildUnits units).2 = .ok r ∧
      Accounts s units r lost built taken failed ∧
      (accepted s units).length = (notesOfSort .duplicate r.diagnostics).length +
        ((groupsOf s units).flatMap (counted ·.2)).length ∧
      (groupsOf s units).length = r.chart.size +
        (notesOfSort .taken r.diagnostics).length + (notesOfSort .failure r.diagnostics).length := by
  obtain ⟨r, p, hbuild, hp, hchart, hnotes⟩ := buildUnits_reached s units
  have h := hp.accounts (by rw [hchart]) hnotes
  refine ⟨r, _, _, _, _, hbuild, h, ?_, ?_⟩
  · rw [h.declarations.length_eq, h.duplicates, List.length_append, List.length_map, Nat.add_comm]
  · rw [← h.groups.length_eq, List.length_append, List.length_append, h.boxes.length_eq,
      h.taken_notes.length_eq, h.failure_notes.length_eq]
    rfl

end Build
end ClassChart
