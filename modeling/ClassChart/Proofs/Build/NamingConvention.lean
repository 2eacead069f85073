import ClassChart.Proofs.Build.Run

/-! Building with the index at hand and without it. Where declarations follow the convention on the
names of interfaces, a declared base has the role that its name suggests, and where no system types
are left out nothing else is asked of the index. So the two builds come to the same report. -/
namespace ClassChart

/-- An interface is what is named with an `I` before a capital, and nothing else is. -/
def Declaration.Conventional (d : Declaration) : Prop :=
  d.kind = "interface" ↔ ∃ c rest, d.name.toList = 'I' :: c :: rest ∧ Text.isCapital c = true

theorem looksLikeInterface_iff (name : String) : looksLikeInterface name = true ↔
    ∃ c rest, name.toList = 'I' :: c :: rest ∧ Text.isCapital c = true := by
  unfold looksLikeInterface
  constructor
  · intro h
    split at h
    · next c rest hname => exact ⟨c, rest, hname, h⟩
    · simp at h
  · rintro ⟨c, rest, hname, hcapital⟩
    rw [hname]
    exact hcapital

theorem Declaration.conventional_iff (d : Declaration) :
    d.Conventional ↔ (d.kind = "interface" ↔ looksLikeInterface d.name = true) := by
  rw [Conventional, looksLikeInterface_iff]

theorem Declaration.Conventional.role {d : Declaration} (h : d.Conventional) :
    BaseRole.ofSymbol d.symbol = BaseRole.ofName d.name := by
  have hlooks := d.conventional_iff.mp h
  simp only [BaseRole.ofSymbol, BaseRole.ofName, Declaration.symbol, hlooks]

theorem role?_of_no_index {rules : NameRules} (h : rules.index = none) (entry : BaseRef) :
    rules.role? entry = some (.ofName entry.name) := by
  rw [NameRules.role?, h, Option.bind_none]

/-- An entry that resolves to a declaration that follows the convention has the role that its own
name suggests, since the declaration has the same name. -/
theorem role?_of_conventional {ds : List Declaration} (hdot : Dotless ds)
    (hconvention : ∀ d ∈ ds, d.Conventional) {rules : NameRules}
    (hindex : rules.index = some (.ofDeclarations ds)) (hsystem : rules.excludeSystem = false)
    {entry : BaseRef} (hentry : '.' ∉ entry.name.toList) :
    rules.role? entry = some (.ofName entry.name) := by
  have hbind : rules.index.bind (·.lookup? entry.name entry.qualifier) =
      (Index.ofDeclarations ds).lookup? entry.name entry.qualifier := by
    rw [hindex, Option.bind_some]
  rw [NameRules.role?, hbind, hsystem]
  cases hlookup : (Index.ofDeclarations ds).lookup? entry.name entry.qualifier with
  | none => rfl
  | some s =>
    obtain ⟨d, hd, rfl, hname⟩ := declaration_of_lookup? hdot hentry hlookup
    have hrole := (hconvention d hd).role
    rw [hname] at hrole
    exact congrArg some hrole

theorem Signature.survives_of_keeping {rules : NameRules} (h : rules.excludeSystem = false) :
    survives rules = fun occurrence => !Names.isPrimitive occurrence.1 := by
  funext occurrence
  rw [survives, h]
  simp

namespace Build
variable {s : Settings} {units : List SourceUnit}

/- A turn depends on the rules by the merge of the declarations that count. -/
theorem takeGroup_congr {rules rules' : MergeRules} {g : Group}
    (h : merge rules (kept g.2) = merge rules' (kept g.2)) (p : Progress) :
    takeGroup rules p g = takeGroup rules' p g := by
  obtain ⟨q, ds⟩ := g
  cases ds with
  | nil => rfl
  | cons first rest =>
    simp only [kept] at h
    simp only [takeGroup, kept, h]

theorem report_congr {s' : Settings} (haccepts : accepts s = accepts s')
    (hlinks : s.ignoreDependencies = s'.ignoreDependencies)
    (hrules : (rulesOf s units).AgreeOn (rulesOf s' units) (declarationsOf units))
    (before : List Diagnostic) : report s before units = report s' before units := by
  have hgroups : groupsOf s units = groupsOf s' units := by
    rw [groupsOf, groupsOf, haccepts]
  have hrun : (groupsOf s units).foldl (takeGroup (rulesOf s units)) ⟨.empty, []⟩ =
      (groupsOf s' units).foldl (takeGroup (rulesOf s' units)) ⟨.empty, []⟩ := by
    rw [← hgroups]
    refine List.foldl_ext _ _ _ fun p g hg => takeGroup_congr ?_ p
    have hmem : ∀ d ∈ kept g.2, d ∈ declarationsOf units :=
      fun d hd => (mem_of_mem_groupsOf hg (mem_of_mem_kept hd)).1
    exact (hrules.mono hmem).merge_eq
  simp only [groupsOf, rulesOf] at hrun
  simp only [report, hrun, hlinks]

/-- Where all declarations follow the convention, building by symbols and building by names come to
one report: the same boxes and links, the same notes, the same counts. -/
theorem symbols_agree_with_names (s : Settings) (units : List SourceUnit)
    (hsystem : s.excludeSystem = false) (hdot : Dotless (declarationsOf units))
    (hconvention : ∀ d ∈ declarationsOf units, d.Conventional)
    (hentries : ∀ d ∈ declarationsOf units, ∀ entry ∈ d.bases, '.' ∉ entry.name.toList) :
    ∃ r, ((Session.new { s with useSymbols := true }).buildUnits units).2 = .ok r ∧
      ((Session.new { s with useSymbols := false }).buildUnits units).2 = .ok r := by
  have hrules : (rulesOf { s with useSymbols := true } units).AgreeOn
      (rulesOf { s with useSymbols := false } units) (declarationsOf units) := by
    constructor
    · apply Signature.references_eq_of_survives
      rw [Signature.survives_of_keeping hsystem, Signature.survives_of_keeping hsystem]
    · intro d hd entry hentry
      have hsymbols : (rulesOf { s with useSymbols := true } units).bases.role? entry =
          some (.ofName entry.name) :=
        role?_of_conventional hdot hconvention rfl hsystem (hentries d hd entry hentry)
      have hnames : (rulesOf { s with useSymbols := false } units).bases.role? entry =
          some (.ofName entry.name) :=
        role?_of_no_index rfl entry
      rw [hsymbols, hnames]
    · rfl
  have haccepts : accepts { s with useSymbols := true } = accepts { s with useSymbols := false } :=
    funext fun _ => rfl
  have hreport : report { s with useSymbols := true } [] units =
      report { s with useSymbols := false } [] units :=
    report_congr haccepts rfl hrules []
  obtain ⟨p, _, hbuilt⟩ := report_reached { s with useSymbols := true } [] units
  exact ⟨_, buildUnits_new hbuilt, buildUnits_new (hreport.symm.trans hbuilt)⟩

/-- A class that names a base type and, by its namespace, an interface. -/
theorem symbols_agree_with_names_of_order :
    let entity : Declaration := ⟨"Entity", "class", "a.cs", "Shop", [], [], [], [], [], 1⟩
    let priced : Declaration := ⟨"IPriced", "interface", "a.cs", "Shop", [], [], [], [], [], 5⟩
    let order : Declaration := ⟨"Order", "class", "b.cs", "Shop", [], [],
      [⟨"Entity", "Entity", ""⟩, ⟨"Shop.IPriced", "IPriced", "Shop"⟩], [], [], 1⟩
    let units : List SourceUnit := [⟨"a.cs", [entity, priced], []⟩, ⟨"b.cs", [order], []⟩]
    Settings.default.excludeSystem = false ∧ Dotless (declarationsOf units) ∧
      (∀ d ∈ declarationsOf units, d.Conventional) ∧
      (∀ d ∈ declarationsOf units, ∀ entry ∈ d.bases, '.' ∉ entry.name.toList) ∧
      ∃ r, ((Session.new { Settings.default with useSymbols := true }).buildUnits units).2 = .ok r ∧
        ((Session.new { Settings.default with useSymbols := false }).buildUnits units).2 =
          .ok r := by
  intro entity priced order units
  have hdeclarations : declarationsOf units = [entity, priced, order] := by decide
  have hdotless : Dotless (declarationsOf units) := by
    rw [hdeclarations]
    unfold Dotless
    decide
  have hconventional : ∀ d ∈ declarationsOf units, d.Conventional := by
    rw [hdeclarations]
    simp only [Declaration.conventional_iff]
    decide
  have hentries : ∀ d ∈ declarationsOf units, ∀ entry ∈ d.bases, '.' ∉ entry.name.toList := by
    rw [hdeclarations]
    decide
  exact ⟨rfl, hdotless, hconventional, hentries,
    symbols_agree_with_names .default units rfl hdotless hconventional hentries⟩

end Build
end ClassChart
