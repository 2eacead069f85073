import ClassChart.Chart.Relations
import ClassChart.Proofs.Chart.Boxes
import ClassChart.Proofs.List.ByKey
import ClassChart.Proofs.List.FirstSeen

/-! The links of a chart, written box by box without a record of what was met before. Keys of
different boxes differ in the source and those of one box in the kind or the target, so the first of
each key is the first mention of each name. -/
namespace ClassChart

theorem firstOfKey_eq (seen : List (String × String × LinkKind)) (ls : List Link) :
    firstOfKey seen ls = firstBy Link.key seen ls := by
  induction ls generalizing seen with
  | nil => rfl
  | cons l rest ih => by_cases h : l.key ∈ seen <;> simp [firstOfKey, firstBy, h, ih]

namespace Chart
variable {chart : Chart} {b : Box} {kind : LinkKind} {name : String} {l : Link}

def other? (chart : Chart) (b : Box) (name : String) : Option Box :=
  (chart.box? name).filter (·.name ≠ b.name)

/-- Links of one kind, one for each distinct name that another box has. -/
def linksTo (chart : Chart) (b : Box) (kind : LinkKind) (names : List String) : List Link :=
  (names.eraseDups.filterMap (chart.other? b)).map fun target => ⟨b, target, kind⟩

/-- The links of one box: to its base type, then to its interfaces, then to the types that its
members refer to. -/
def linksOf (chart : Chart) (suppress : Bool) (b : Box) : List Link :=
  chart.linksTo b .inheritance (b.outline.base.filter (· ≠ "")).toList ++
    chart.linksTo b .implementation b.outline.interfaces ++
    if suppress then [] else
      chart.linksTo b .dependency (b.outline.members.flatMap (·.references))

theorem linkTo_eq_some (h : chart.linkTo b kind name = some l) :
    l.source = b ∧ l.target.name = name ∧ l.kind = kind ∧ l.target ∈ chart.boxes ∧
      l.target ≠ b := by
  unfold linkTo at h
  split at h
  · next target htarget =>
    split at h
    · simp at h
    · next hne =>
      obtain rfl := Option.some.inj h
      obtain ⟨hmem, hname⟩ := box?_eq_some htarget
      exact ⟨rfl, hname, rfl, hmem, hne⟩
  · simp at h

theorem linkTo_key (h : chart.linkTo b kind name = some l) : l.key = (b.name, name, kind) := by
  obtain ⟨rfl, rfl, rfl, _⟩ := linkTo_eq_some h
  rfl

theorem linkTo_eq_other (hd : chart.Distinct) (hb : b ∈ chart.boxes) (kind : LinkKind)
    (name : String) :
    chart.linkTo b kind name = (chart.other? b name).map fun target => ⟨b, target, kind⟩ := by
  unfold linkTo other?
  cases hbox : chart.box? name with
  | none => rfl
  | some target =>
    by_cases heq : target = b
    · simp [Option.filter, heq]
    · have hne : target.name ≠ b.name := fun hname =>
        heq (hd.eq_of_name (box?_eq_some hbox).1 hb hname)
      simp [Option.filter, heq, hne]

theorem filterMap_linkTo (hd : chart.Distinct) (hb : b ∈ chart.boxes) (kind : LinkKind)
    (names : List String) :
    firstBy Link.key [] (names.filterMap (chart.linkTo b kind)) = chart.linksTo b kind names := by
  have hinj : Function.Injective fun name : String => (b.name, name, kind) := by
    intro m n h
    simpa using h
  have hfirst : firstBy Link.key [] (names.filterMap (chart.linkTo b kind)) =
      (firstBy id [] names).filterMap (chart.linkTo b kind) :=
    firstBy_filterMap (chart.linkTo b kind) _ hinj (fun _ _ h => linkTo_key h) [] names
  rw [firstBy_id] at hfirst
  rw [hfirst, linksTo, List.map_filterMap]
  exact List.filterMap_congr fun name _ => linkTo_eq_other hd hb kind name

/- A name that has called for its link is recorded, and so is the key of the link. -/
theorem dependencies_eq (chart : Chart) (b : Box) (seen names : List String) :
    chart.dependencies b seen names =
      firstBy Link.key (seen.map fun name => (b.name, name, .dependency))
        (names.filterMap (chart.linkTo b .dependency)) := by
  induction names generalizing seen with
  | nil => rfl
  | cons name rest ih =>
    cases hlink : chart.linkTo b .dependency name with
    | none => by_cases hseen : name ∈ seen <;> simp [dependencies, hseen, hlink, ih]
    | some l =>
      have hkey := linkTo_key hlink
      by_cases hseen : name ∈ seen
      · simp [dependencies, hseen, hlink, ih, firstBy, hkey]
      · simp [dependencies, hseen, hlink, ih, firstBy, hkey]

theorem baseNames_eq (o : Outline) : o.baseNames = (o.base.filter (· ≠ "")).toList := by
  unfold Outline.baseNames
  cases o.base with
  | none => rfl
  | some name => by_cases h : name = "" <;> simp [Option.filter, h]

theorem kind_of_mem {names : List String}
    (h : l ∈ names.filterMap (chart.linkTo b kind)) : l.kind = kind := by
  obtain ⟨name, _, hl⟩ := List.mem_filterMap.mp h
  exact (linkTo_eq_some hl).2.2.1

theorem mem_of_mem_dependencies {names : List String} (h : l ∈ chart.dependencies b [] names) :
    l ∈ names.filterMap (chart.linkTo b .dependency) := by
  rw [dependencies_eq] at h
  exact (firstBy_sublist _ _).mem h

theorem mem_parts {suppress : Bool} {bases interfaces references : List Link}
    (h : l ∈ bases ++ interfaces ++ if suppress then [] else references) :
    l ∈ bases ∨ l ∈ interfaces ∨ l ∈ references := by
  rw [List.append_assoc, List.mem_append, List.mem_append] at h
  refine h.imp_right (Or.imp_right fun hlast => ?_)
  cases suppress with
  | true => simp at hlast
  | false => exact hlast

theorem mem_candidates {suppress : Bool} (h : l ∈ chart.candidates suppress b) :
    ∃ kind name, chart.linkTo b kind name = some l := by
  have hfound : ∀ {names : List String} {kind : LinkKind},
      l ∈ names.filterMap (chart.linkTo b kind) →
        ∃ kind name, chart.linkTo b kind name = some l := by
    intro names kind hl
    obtain ⟨name, _, hname⟩ := List.mem_filterMap.mp hl
    exact ⟨kind, name, hname⟩
  rcases mem_parts h with hbase | hinterface | hreferred
  · exact hfound hbase
  · exact hfound hinterface
  · exact hfound (mem_of_mem_dependencies hreferred)

theorem firstBy_dependencies (hd : chart.Distinct) (hb : b ∈ chart.boxes) (names : List String) :
    firstBy Link.key [] (chart.dependencies b [] names) = chart.linksTo b .dependency names := by
  have hdependencies := dependencies_eq chart b [] names
  rw [List.map_nil] at hdependencies
  rw [hdependencies, firstBy_eq_self (firstBy_nodup _ _), filterMap_linkTo hd hb]

theorem firstBy_candidates (hd : chart.Distinct) (hb : b ∈ chart.boxes) (suppress : Bool) :
    firstBy Link.key [] (chart.candidates suppress b) = chart.linksOf suppress b := by
  have hkinds : ∀ {l m : Link}, m.kind ≠ l.kind → m.key ≠ l.key := by
    intro l m hne hkey
    exact hne (congrArg (·.2.2) hkey)
  have hinterfaces : ∀ l ∈ b.outline.baseNames.filterMap (chart.linkTo b .inheritance),
      ∀ m ∈ b.outline.interfaces.filterMap (chart.linkTo b .implementation), m.key ≠ l.key := by
    intro l hl m hm
    exact hkinds (by simp [kind_of_mem hl, kind_of_mem hm])
  have hreferences : ∀ l ∈ b.outline.baseNames.filterMap (chart.linkTo b .inheritance) ++
        b.outline.interfaces.filterMap (chart.linkTo b .implementation),
      ∀ m ∈ chart.dependencies b [] b.outline.referenceNames, m.key ≠ l.key := by
    intro l hl m hm
    have hm := kind_of_mem (mem_of_mem_dependencies hm)
    rcases List.mem_append.mp hl with hbase | hinterface
    · exact hkinds (by simp [kind_of_mem hbase, hm])
    · exact hkinds (by simp [kind_of_mem hinterface, hm])
  have hnamed : firstBy Link.key [] (b.outline.baseNames.filterMap (chart.linkTo b .inheritance) ++
        b.outline.interfaces.filterMap (chart.linkTo b .implementation)) =
      chart.linksTo b .inheritance (b.outline.base.filter (· ≠ "")).toList ++
        chart.linksTo b .implementation b.outline.interfaces := by
    rw [firstBy_append _ hinterfaces, filterMap_linkTo hd hb, filterMap_linkTo hd hb, baseNames_eq]
  unfold candidates linksOf
  cases suppress with
  | true => rw [if_pos rfl, if_pos rfl, List.append_nil, List.append_nil, hnamed]
  | false =>
    rw [if_neg Bool.false_ne_true, if_neg Bool.false_ne_true, firstBy_append _ hreferences, hnamed,
      firstBy_dependencies hd hb]
    rfl

theorem relations_eq (hd : chart.Distinct) (suppress : Bool) :
    chart.relations suppress = chart.boxes.flatMap (chart.linksOf suppress) := by
  have hsources : chart.boxes.Pairwise fun b c => ∀ l ∈ chart.candidates suppress b,
      ∀ m ∈ chart.candidates suppress c, m.key ≠ l.key := by
    refine (List.pairwise_map.mp hd).imp fun hne l hl m hm hkey => hne ?_
    obtain ⟨_, _, hl⟩ := mem_candidates hl
    obtain ⟨_, _, hm⟩ := mem_candidates hm
    rw [linkTo_key hl, linkTo_key hm] at hkey
    exact (congrArg (·.1) hkey).symm
  rw [relations, firstOfKey_eq, firstBy_flatMap _ hsources]
  exact List.flatMap_congr fun b hb => firstBy_candidates hd hb suppress

theorem relations_nodup (chart : Chart) (suppress : Bool) :
    ((chart.relations suppress).map Link.key).Nodup := by
  rw [relations, firstOfKey_eq]
  exact firstBy_nodup _ _

theorem relations_ends {suppress : Bool} (h : l ∈ chart.relations suppress) :
    l.source ∈ chart.boxes ∧ l.target ∈ chart.boxes ∧ l.source ≠ l.target := by
  rw [relations, firstOfKey_eq] at h
  obtain ⟨b, hb, hl⟩ := List.mem_flatMap.mp ((firstBy_sublist _ _).mem h)
  obtain ⟨kind, name, hlink⟩ := mem_candidates hl
  obtain ⟨rfl, _, _, htarget, hne⟩ := linkTo_eq_some hlink
  exact ⟨hb, htarget, hne.symm⟩

theorem setLinks_relations (hd : chart.Distinct) (suppress : Bool) :
    chart.setLinks (chart.relations suppress) =
      .ok { chart with links := chart.relations suppress } := by
  refine hd.setLinks_eq_ok fun l hl => ?_
  obtain ⟨hsource, htarget, _⟩ := relations_ends hl
  exact ⟨hsource, htarget⟩

/-- Whatever boxes are added to an empty chart, its links are those that its boxes enumerate by
name; no two have the same ends and kind, both ends of each are different boxes of the chart, and
the chart accepts them. -/
theorem relations_enumerate_boxes (bs : List Box) (suppress : Bool) :
    let chart := empty.addAll bs
    chart.relations suppress = chart.boxes.flatMap (chart.linksOf suppress) ∧
      ((chart.relations suppress).map Link.key).Nodup ∧
      (∀ l ∈ chart.relations suppress,
        l.source ∈ chart.boxes ∧ l.target ∈ chart.boxes ∧ l.source.name ≠ l.target.name) ∧
      chart.setLinks (chart.relations suppress) =
        .ok { chart with links := chart.relations suppress } := by
  intro chart
  have hd : chart.Distinct := distinct_empty.addAll bs
  refine ⟨relations_eq hd suppress, relations_nodup chart suppress, fun l hl => ?_,
    setLinks_relations hd suppress⟩
  obtain ⟨hsource, htarget, hne⟩ := relations_ends hl
  exact ⟨hsource, htarget, fun hname => hne (hd.eq_of_name hsource htarget hname)⟩

/-- A box that names an interface twice and itself once, and refers twice to its base type. -/
theorem relations_enumerate_boxes_of_three :
    let a : Box := ⟨0, ⟨"A", .class, "A", "", none, [], [], []⟩⟩
    let i : Box := ⟨1, ⟨"I", .interface, "I", "", none, [], [], []⟩⟩
    let b : Box := ⟨2, ⟨"B", .class, "B", "", some "A", ["I", "I", "B"],
      [⟨"M", .pub, .method, "A", none, ["A", "int", "A"]⟩], []⟩⟩
    (empty.addAll [a, i, b]).relations false =
      [⟨b, a, .inheritance⟩, ⟨b, i, .implementation⟩, ⟨b, a, .dependency⟩] := by
  intro a i b
  rw [(relations_enumerate_boxes [a, i, b] false).1]
  decide

def linksFrom (chart : Chart) (name : String) : List Link :=
  chart.links.filter (·.source.name = name)

theorem of_mem_linksTo {names : List String} (h : l ∈ chart.linksTo b kind names) :
    l.source = b ∧ l.kind = kind := by
  obtain ⟨target, _, rfl⟩ := List.mem_map.mp h
  exact ⟨rfl, rfl⟩

theorem source_of_mem_linksOf {suppress : Bool} (h : l ∈ chart.linksOf suppress b) :
    l.source = b := by
  rcases mem_parts h with hbase | hinterface | hreferred
  · exact (of_mem_linksTo hbase).1
  · exact (of_mem_linksTo hinterface).1
  · exact (of_mem_linksTo hreferred).1

theorem linksOf_bare (hbase : b.outline.base = none) (hinterfaces : b.outline.interfaces = [])
    (hmembers : b.outline.members = []) (suppress : Bool) : chart.linksOf suppress b = [] := by
  cases suppress <;> simp [linksOf, linksTo, hbase, hinterfaces, hmembers, Option.filter]

theorem linksOf_suppressed (h : l ∈ chart.linksOf true b) : l.kind ≠ .dependency := by
  rw [linksOf, if_pos rfl, List.append_nil, List.mem_append] at h
  rcases h with hbase | hinterface
  · simp [(of_mem_linksTo hbase).2]
  · simp [(of_mem_linksTo hinterface).2]

theorem linksOf_inheritance (chart : Chart) (suppress : Bool) (b : Box) :
    ((chart.linksOf suppress b).filter (·.kind = .inheritance)).length ≤ 1 := by
  have hnone : ∀ (kind : LinkKind) (names : List String), kind ≠ .inheritance →
      (chart.linksTo b kind names).filter (·.kind = .inheritance) = [] := by
    intro kind names hne
    refine List.filter_eq_nil_iff.mpr fun l hl => ?_
    simpa [(of_mem_linksTo hl).2] using hne
  have hreferred : (if suppress then [] else chart.linksTo b .dependency
      (b.outline.members.flatMap (·.references))).filter (·.kind = .inheritance) = [] := by
    cases suppress
    · exact hnone .dependency _ (by decide)
    · rfl
  have hbase : (chart.linksTo b .inheritance (b.outline.base.filter (· ≠ "")).toList).length ≤ 1 := by
    rw [linksTo, List.length_map]
    refine Nat.le_trans (List.length_filterMap_le _ _) ?_
    cases b.outline.base.filter (· ≠ "") <;> simp [List.eraseDups_cons]
  rw [linksOf, List.filter_append, List.filter_append, hnone .implementation _ (by decide), hreferred,
    List.append_nil, List.append_nil]
  exact Nat.le_trans (List.length_filter_le _ _) hbase

theorem mem_linksTo (hd : chart.Distinct) {target : Box} (hb : b ∈ chart.boxes)
    (htarget : target ∈ chart.boxes) (hne : b ≠ target) (names : List String) :
    ⟨b, target, kind⟩ ∈ chart.linksTo b kind names ↔ target.name ∈ names := by
  constructor
  · intro h
    obtain ⟨found, hfound, heq⟩ := List.mem_map.mp h
    obtain ⟨name, hname, hother⟩ := List.mem_filterMap.mp hfound
    obtain rfl : found = target := congrArg Link.target heq
    have hbox : chart.box? name = some found := (Option.filter_eq_some_iff.mp hother).1
    rw [(box?_eq_some hbox).2]
    exact List.mem_eraseDups.mp hname
  · intro h
    have hother : chart.other? b target.name = some target := by
      refine Option.filter_eq_some_iff.mpr ⟨hd.box?_of_mem htarget, ?_⟩
      exact decide_eq_true fun hname => hne (hd.eq_of_name hb htarget hname.symm)
    exact List.mem_map_of_mem (List.mem_filterMap.mpr ⟨_, List.mem_eraseDups.mpr h, hother⟩)

theorem dependency_mem_relations (hd : chart.Distinct) {target : Box} (hb : b ∈ chart.boxes)
    (htarget : target ∈ chart.boxes) (hne : b ≠ target) :
    ⟨b, target, .dependency⟩ ∈ chart.relations false ↔
      ∃ m ∈ b.outline.members, target.name ∈ m.references := by
  rw [relations_eq hd, ← List.mem_flatMap, ← mem_linksTo hd hb htarget hne, List.mem_flatMap]
  constructor
  · rintro ⟨c, _, hlink⟩
    obtain rfl : b = c := source_of_mem_linksOf hlink
    rcases mem_parts hlink with hbase | hinterface | hreferred
    · cases (of_mem_linksTo hbase).2
    · cases (of_mem_linksTo hinterface).2
    · exact hreferred
  · intro hlink
    exact ⟨b, hb, List.mem_append_right _ hlink⟩

theorem filter_relations (hd : chart.Distinct) (suppress : Bool) (p : String → Bool) :
    (chart.relations suppress).filter (fun l => p l.source.name) =
      (chart.boxes.filter fun b => p b.name).flatMap (chart.linksOf suppress) := by
  rw [relations_eq hd]
  exact filter_flatMap_eq fun b _ l hl => by rw [source_of_mem_linksOf hl]

theorem linksFrom_relations (hd : chart.Distinct) (suppress : Bool) (name : String) :
    linksFrom { chart with links := chart.relations suppress } name =
      (chart.box? name).toList.flatMap (chart.linksOf suppress) :=
  calc (chart.relations suppress).filter (·.source.name = name)
      = (chart.boxes.filter (·.name = name)).flatMap (chart.linksOf suppress) :=
        filter_relations hd suppress (· = name)
    _ = (chart.box? name).toList.flatMap (chart.linksOf suppress) := by rw [hd.filter_name]

end Chart
end ClassChart
