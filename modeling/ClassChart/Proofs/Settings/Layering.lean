import ClassChart.Proofs.Except
import ClassChart.Proofs.Settings.Section
import ClassChart.Settings.Load
import Mathlib

/-! Layers of settings. What a section gives decides the values of all fields, and what a layer over it
gives decides which of them change. So a layer may be laid over settings or over the section that they
came from. -/
namespace ClassChart

theorem Field.ofName?_name (f : Field) : Field.ofName? f.name = some f := by
  cases f <;> rfl

theorem Field.name_of_ofName? {name : String} {f : Field} (h : Field.ofName? name = some f) :
    f.name = name := by
  have hfound := List.find?_some h
  exact eq_of_beq hfound

theorem Field.mem_all (f : Field) : f ∈ Field.all := by
  cases f <;> decide

theorem Field.name_injective : Function.Injective Field.name := by
  intro f g h
  have hsome : some f = some g := by rw [← ofName?_name f, h, ofName?_name g]
  exact Option.some.inj hsome

/-- The value that a field takes from a value that it is set from. -/
def Field.read (f : Field) (v : Value) : Except SettingsError Value :=
  match f with
  | .typeNames | .namespaces | .systemNamespaces | .exclude =>
    (Settings.listOf f.name v).map fun l => .list (l.map .str)
  | .floor => (Settings.floorOf v).map .level
  | .ignoreDependencies | .excludeSystem | .useSymbols => (Settings.boolOf f.name v).map .bool

namespace Settings
variable {s t : Settings} {d o : Section}

theorem ext_value (h : ∀ f, s.value f = t.value f) : s = t := by
  have hlist {l l' : List String} (h : Value.list (l.map .str) = .list (l'.map .str)) : l = l' :=
    List.map_injective_iff.mpr (fun _ _ => Value.str.inj) (Value.list.inj h)
  cases s
  cases t
  rw [Settings.mk.injEq]
  exact ⟨hlist (h .typeNames), hlist (h .namespaces), Value.level.inj (h .floor),
    Value.bool.inj (h .ignoreDependencies), Value.bool.inj (h .excludeSystem),
    hlist (h .systemNamespaces), Value.bool.inj (h .useSymbols), hlist (h .exclude)⟩

theorem read_value (s : Settings) (f : Field) : f.read (s.value f) = .ok (s.value f) := by
  have htexts (l : List String) : (l.map Value.str).map Value.text = l := by
    rw [List.map_map]
    exact List.map_id l
  have hlist (l : List String) :
      (Except.ok ((l.map Value.str).map Value.text) : Except SettingsError _).map
        (fun l => Value.list (l.map .str)) = .ok (.list (l.map .str)) := by
    rw [htexts]
    rfl
  cases f with
  | floor | ignoreDependencies | excludeSystem | useSymbols => rfl
  | typeNames | namespaces | systemNamespaces | exclude => exact hlist _

theorem isGiven_value (s : Settings) (f : Field) : (s.value f).isGiven = true := by
  cases f <;> rfl

theorem setField_ok {f : Field} {v : Value} (h : s.setField f v = .ok t) :
    f.read v = .ok (t.value f) ∧ ∀ g, g ≠ f → t.value g = s.value g := by
  cases f <;>
    · obtain ⟨a, ha, rfl⟩ := map_eq_ok.mp h
      refine ⟨map_eq_ok.mpr ⟨a, ha, rfl⟩, fun g hg => ?_⟩
      cases g <;> first | rfl | exact absurd rfl hg

theorem exists_setField {f : Field} {v w : Value} (h : f.read v = .ok w) :
    ∃ t, s.setField f v = .ok t := by
  cases f <;>
    · obtain ⟨a, ha, -⟩ := map_eq_ok.mp h
      exact ⟨_, map_eq_ok.mpr ⟨a, ha, rfl⟩⟩

theorem set_eq (s : Settings) (f : Field) (v : Value) :
    s.set f v = if v.isGiven then s.setField f v else .ok s := by
  cases v <;> rfl

/-- An entry under the name of a field, with a value that the field takes if it says something. -/
def Acceptable (entry : String × Value) : Prop :=
  ∃ f : Field, f.name = entry.1 ∧ (entry.2.isGiven = true → ∃ w, f.read entry.2 = .ok w)

theorem set_ok {f : Field} {v : Value} (h : s.set f v = .ok t) (g : Field) :
    .ok (t.value g) = if f = g ∧ v.isGiven then g.read v else .ok (s.value g) := by
  rw [set_eq] at h
  by_cases hgiven : v.isGiven = true
  · rw [if_pos hgiven] at h
    obtain ⟨hread, hothers⟩ := setField_ok h
    by_cases hfield : f = g
    · rw [if_pos ⟨hfield, hgiven⟩, ← hfield, hread]
    · rw [if_neg fun h => hfield h.1, hothers g (Ne.symm hfield)]
  · rw [if_neg hgiven] at h
    obtain rfl := Except.ok.inj h
    rw [if_neg fun h => hgiven h.2]

section
variable {entry : String × Value} {f : Field}

theorem setEntry_of_name (s : Settings) (hname : f.name = entry.1) :
    s.setEntry entry = s.set f entry.2 := by
  rw [setEntry, ← hname, Field.ofName?_name]

theorem setEntry_of_unknown (s : Settings) (h : ¬ ∃ f : Field, f.name = entry.1) :
    s.setEntry entry = .ok s := by
  rw [setEntry]
  cases hname : Field.ofName? entry.1 with
  | none => rfl
  | some f => exact absurd ⟨f, Field.name_of_ofName? hname⟩ h

theorem setEntry_ok (h : s.setEntry entry = .ok t) (f : Field) :
    .ok (t.value f) =
      if entry.1 = f.name ∧ entry.2.isGiven then f.read entry.2 else .ok (s.value f) := by
  by_cases hknown : ∃ g : Field, g.name = entry.1
  · obtain ⟨g, hname⟩ := hknown
    rw [setEntry_of_name s hname] at h
    rw [set_ok h f, ← hname]
    simp only [Field.name_injective.eq_iff]
  · rw [setEntry_of_unknown s hknown] at h
    obtain rfl := Except.ok.inj h
    rw [if_neg fun hfield => hknown ⟨f, hfield.1.symm⟩]

theorem exists_setEntry (s : Settings) (h : Acceptable entry) : ∃ t, s.setEntry entry = .ok t := by
  obtain ⟨f, hname, hread⟩ := h
  rw [setEntry_of_name s hname, set_eq]
  by_cases hgiven : entry.2.isGiven = true
  · obtain ⟨w, hw⟩ := hread hgiven
    rw [if_pos hgiven]
    exact exists_setField hw
  · exact ⟨s, if_neg hgiven⟩

end

theorem value_of_entries (h : d.foldlM setEntry s = .ok t) (f : Field) :
    .ok (t.value f) = (d.given? f.name).elim (.ok (s.value f)) f.read := by
  induction d generalizing s with
  | nil =>
    obtain rfl := Except.ok.inj h
    rfl
  | cons e rest ih =>
    rw [List.foldlM_cons] at h
    obtain ⟨s', hentry, hrest⟩ := bind_eq_ok.mp h
    rw [ih hrest, setEntry_ok hentry, Section.given?]
    cases Section.given? rest f.name with
    | some v => rfl
    | none => rw [Option.none_or]; split <;> rfl

theorem readable_of_entries (h : d.foldlM setEntry s = .ok t) {e : String × Value} (he : e ∈ d)
    {f : Field} (hname : f.name = e.1) (hgiven : e.2.isGiven = true) : ∃ w, f.read e.2 = .ok w := by
  induction d generalizing s with
  | nil => exact absurd he List.not_mem_nil
  | cons a rest ih =>
    rw [List.foldlM_cons] at h
    obtain ⟨s', hentry, hrest⟩ := bind_eq_ok.mp h
    obtain rfl | he := List.mem_cons.mp he
    · have hread := setEntry_ok hentry f
      rw [if_pos ⟨hname.symm, hgiven⟩] at hread
      exact ⟨_, hread.symm⟩
    · exact ih hrest he

theorem exists_of_entries (h : ∀ e ∈ d, Acceptable e) (s : Settings) :
    ∃ t, d.foldlM setEntry s = .ok t := by
  induction d generalizing s with
  | nil => exact ⟨s, rfl⟩
  | cons e rest ih =>
    obtain ⟨he, hrest⟩ := List.forall_mem_cons.mp h
    obtain ⟨s', hentry⟩ := exists_setEntry s he
    obtain ⟨t, ht⟩ := ih hrest s'
    exact ⟨t, by rw [List.foldlM_cons, hentry]; exact ht⟩

theorem checkKeys_ok : checkKeys d = .ok () ↔ ∀ e ∈ d, ∃ f : Field, f.name = e.1 := by
  have hknown (key : String) : (Field.ofName? key).isNone = false ↔ ∃ f : Field, f.name = key := by
    rw [Option.isNone_eq_false_iff, Option.isSome_iff_exists]
    constructor
    · rintro ⟨f, hf⟩
      exact ⟨f, Field.name_of_ofName? hf⟩
    · rintro ⟨f, rfl⟩
      exact ⟨f, Field.ofName?_name f⟩
  have hnil : unknownKeys d = [] ↔ ∀ e ∈ d, ∃ f : Field, f.name = e.1 := by
    simp only [List.eq_nil_iff_forall_not_mem, unknownKeys, List.mem_mergeSort, List.mem_filter,
      List.mem_map, not_and, Bool.not_eq_true, hknown, forall_exists_index, and_imp,
      forall_apply_eq_imp_iff₂]
  rw [← hnil, checkKeys]
  by_cases h : unknownKeys d = [] <;> simp [h]

/-- What it means that settings come from a section: it has acceptable entries only, and each field has
the value given for it, or else its default. -/
structure SetBy (s : Settings) (d : Section) : Prop where
  acceptable : ∀ e ∈ d, Acceptable e
  value : ∀ f : Field,
    .ok (s.value f) = (d.given? f.name).elim (.ok (Settings.default.value f)) f.read

theorem ofSection_eq_ok : ofSection d = .ok s ↔ s.SetBy d := by
  rw [ofSection, bind_eq_ok]
  constructor
  · rintro ⟨_, hkeys, hentries⟩
    refine ⟨fun e he => ?_, value_of_entries hentries⟩
    obtain ⟨f, hf⟩ := checkKeys_ok.mp hkeys e he
    exact ⟨f, hf, readable_of_entries hentries he hf⟩
  · intro h
    have hkeys := checkKeys_ok.mpr fun e he => (h.acceptable e he).imp fun _ hf => hf.1
    obtain ⟨t, ht⟩ := exists_of_entries h.acceptable Settings.default
    have hsame : t = s := ext_value fun f => by
      rw [← Except.ok.injEq (ε := SettingsError), value_of_entries ht f, h.value f]
    exact ⟨(), hkeys, hsame ▸ ht⟩

/-- What it means that a section is laid over settings: what it gives is acceptable, and each field has
the value given for it, or else the one it had. -/
structure Overlaid (s : Settings) (o : Section) (t : Settings) : Prop where
  acceptable : ∀ key v, o.given? key = some v → Acceptable (key, v)
  value : ∀ f : Field, .ok (t.value f) = (o.given? f.name).elim (.ok (s.value f)) f.read

theorem setBy_laidOver (h : s.SetBy d) : t.SetBy (d.laidOver o) ↔ Overlaid s o t := by
  have hvalue (f : Field) :
      ((d.laidOver o).given? f.name).elim (.ok (Settings.default.value f)) f.read =
        (o.given? f.name).elim (.ok (s.value f)) f.read := by
    rw [Section.given?_laidOver, h.value]
    cases o.given? f.name <;> rfl
  constructor
  · intro ht
    refine ⟨fun key v hgiven => ?_, fun f => (ht.value f).trans (hvalue f)⟩
    exact ht.acceptable (key, v) (Section.mem_laidOver.mpr (.inl hgiven))
  · intro ht
    refine ⟨fun e he => ?_, fun f => (ht.value f).trans (hvalue f).symm⟩
    obtain hgiven | ⟨-, hbelow⟩ := Section.mem_laidOver.mp he
    · exact ht.acceptable e.1 e.2 hgiven
    · exact h.acceptable e hbelow

theorem setBy_toSection (s : Settings) : s.SetBy s.toSection := by
  have hmem {key : String} {v : Value} :
      (key, v) ∈ s.toSection ↔ ∃ f : Field, f.name = key ∧ s.value f = v := by
    simp [toSection, Field.mem_all]
  refine ⟨?_, fun f => ?_⟩
  · rintro ⟨key, v⟩ he
    obtain ⟨f, hname, rfl⟩ := hmem.mp he
    exact ⟨f, hname, fun _ => ⟨_, read_value s f⟩⟩
  · have hgiven : s.toSection.given? f.name = some (s.value f) := by
      refine Section.given?_of_mem (hmem.mpr ⟨f, rfl, rfl⟩) (isGiven_value s f) fun w hw => ?_
      obtain ⟨g, hname, rfl⟩ := hmem.mp hw
      rw [Field.name_injective hname]
    rw [hgiven, Option.elim_some, read_value]

theorem overlay_eq_ok : s.overlay o = .ok t ↔ Overlaid s o t := by
  rw [overlay, ofSection_eq_ok, setBy_laidOver (setBy_toSection s)]

theorem Overlaid.trans {u : Settings} {o' : Section} (h : Overlaid s o t) (h' : Overlaid t o' u) :
    Overlaid s (o.laidOver o') u := by
  refine ⟨fun key v hgiven => ?_, fun f => ?_⟩
  · rw [Section.given?_laidOver, Option.or_eq_some_iff] at hgiven
    obtain habove | ⟨-, hbelow⟩ := hgiven
    · exact h'.acceptable key v habove
    · exact h.acceptable key v hbelow
  · rw [h'.value, Section.given?_laidOver, h.value]
    cases o'.given? f.name <;> rfl

theorem overlay_nothing (s : Settings) (hnull : ∀ e ∈ o, e.2 = .null) : s.overlay o = .ok s := by
  have hnone (key : String) : o.given? key = none := Section.given?_eq_none hnull
  refine overlay_eq_ok.mpr ⟨fun key v hgiven => ?_, fun f => by rw [hnone, Option.elim_none]⟩
  rw [hnone] at hgiven
  exact absurd hgiven (by simp)

section
variable {yaml : Yaml.Reader} {disk : Files.Disk} {path env : Option String}

theorem load_eq (yaml : Yaml.Reader) (disk : Files.Disk) (path env : Option String) (o : Section) :
    load yaml disk path env o = fileSection yaml disk path env >>= fun entries =>
      (ofSection entries).mapError .settings >>= fun s => (s.overlay o).mapError .settings :=
  rfl

theorem load_of_section (hfile : fileSection yaml disk path env = .ok d) (h : ofSection d = .ok s) :
    load yaml disk path env o = (s.overlay o).mapError .settings := by
  rw [load_eq, hfile]
  change (ofSection d).mapError _ >>= _ = _
  rw [h]
  rfl

theorem load_of_error {e : LoadError} (hfile : fileSection yaml disk path env = .error e) :
    load yaml disk path env o = .error e := by
  rw [load_eq, hfile]
  rfl

end

/-- Layers of settings. Over the settings that come from a section another section can be laid exactly if
it can be laid over that section, with the same result. A layer that says nothing changes nothing, and
two layers are as good as the one that the second makes of the first. What a field gets in the end is
what the upper layer gives, else what the lower one gives, else its default. -/
theorem overlay_lawful (d : Section) (s : Settings) (h : ofSection d = .ok s) :
    (∀ o t, s.overlay o = .ok t ↔ ofSection (d.laidOver o) = .ok t) ∧
    (∀ o, (∀ e ∈ o, e.2 = .null) → s.overlay o = .ok s) ∧
    (∀ o o' t u, s.overlay o = .ok t → t.overlay o' = .ok u → s.overlay (o.laidOver o') = .ok u) ∧
    (∀ o t, s.overlay o = .ok t → ∀ f : Field, .ok (t.value f) =
      ((o.given? f.name).or (d.given? f.name)).elim (.ok (Settings.default.value f)) f.read) ∧
    ∀ yaml disk path env o, fileSection yaml disk path env = .ok d →
      load yaml disk path env o = (s.overlay o).mapError .settings := by
  have hset := ofSection_eq_ok.mp h
  refine ⟨fun o t => ?_, fun o => overlay_nothing s, fun o o' t u ht hu => ?_, fun o t ht f => ?_,
    fun yaml disk path env o hfile => load_of_section hfile h⟩
  · rw [overlay_eq_ok, ofSection_eq_ok, setBy_laidOver hset]
  · exact overlay_eq_ok.mpr ((overlay_eq_ok.mp ht).trans (overlay_eq_ok.mp hu))
  · rw [(overlay_eq_ok.mp ht).value, hset.value]
    cases o.given? f.name <;> rfl

/-- A file that narrows two settings, and a command line that says nothing of the one and widens the
other again. -/
theorem overlay_lawful_of_narrowed :
    let d : Section := [("exclude", .str "bin"), ("min_visibility", .level .intern)]
    let s : Settings := { Settings.default with floor := .intern, exclude := ["bin"] }
    let o : Section := [("exclude", .null), ("min_visibility", .level .priv)]
    let t : Settings := { Settings.default with floor := .priv, exclude := ["bin"] }
    ofSection d = .ok s ∧ s.overlay o = .ok t ∧ ofSection (d.laidOver o) = .ok t := by
  intro d s o t
  have hfile : ofSection d = .ok s := by cbv
  have hlaid : ofSection (d.laidOver o) = .ok t := by cbv
  obtain ⟨hover, -⟩ := overlay_lawful d s hfile
  exact ⟨hfile, (hover o t).mpr hlaid, hlaid⟩

end Settings

end ClassChart
