import EntitySql.Proofs.Sql.Read
import EntitySql.Proofs.Sql.Write

/-!
# Markers are read in ASCII

A statement writes the marker of a property with the whole name of the property, and a marker is
read as far as letters, digits and underscores of ASCII go. So a name is read back exactly where
all of it is ASCII. Of any other identifier only the part before its first other character is read,
and nothing where it begins with one.
-/

namespace EntitySql

open Text Marker

namespace Text

/-- A letter of any script or an underscore, and letters, numerals and underscores behind it. -/
def isIdentifier : List Char → Bool
  | [] => false
  | c :: s => isIdentifierStart c && s.all isIdentifierPart

theorem isAscii_of_le {c d : Char} (h : c.val ≤ d.val) (hd : isAscii d = true) :
    isAscii c = true := by
  have hle : c.toNat ≤ d.toNat := UInt32.le_iff_toNat_le.1 h
  rw [isAscii, decide_eq_true_iff] at hd ⊢
  omega

theorem isAscii_of_isAlphanum {c : Char} (h : c.isAlphanum = true) : isAscii c = true := by
  rcases (Bool.or_eq_true c.isAlpha c.isDigit).mp h with halpha | hdigit
  · rcases (Bool.or_eq_true c.isUpper c.isLower).mp halpha with hupper | hlower
    · exact isAscii_of_le (d := 'Z') (of_decide_eq_true hupper).2 (by decide)
    · exact isAscii_of_le (d := 'z') (of_decide_eq_true ((Bool.and_eq_true _ _).mp hlower).2)
        (by decide)
  · exact isAscii_of_isDigit hdigit

/-- Within identifiers, the parts of a marker are the characters of ASCII. -/
theorem isAsciiWordPart_eq (c : Char) : isAsciiWordPart c = (isAscii c && isIdentifierPart c) := by
  cases h : isAscii c with
  | true =>
    rw [isIdentifierPart, isAlphabetic, isNumeric, if_pos h, if_pos h]
    rfl
  | false =>
    rw [Bool.false_and, ← Bool.not_eq_true, isAsciiWordPart, Bool.or_eq_true, beq_iff_eq]
    rintro (halphanum | rfl)
    · rw [isAscii_of_isAlphanum halphanum] at h
      cases h
    · cases h

theorem not_special_of_isIdentifierPart {c : Char} (h : isIdentifierPart c = true) :
    c ≠ '@' ∧ closing? c = none := by
  have hne (d : Char) (hd : isIdentifierPart d = false) : c ≠ d :=
    ne_of_apply_ne isIdentifierPart (by simp [h, hd])
  refine ⟨hne '@' (by decide), ?_⟩
  rw [closing?, if_neg, if_neg (hne '[' (by decide))]
  rintro (rfl | rfl | rfl) <;> exact absurd h (by decide)

theorem isIdentifierPart_of_start {c : Char} (h : isIdentifierStart c = true) :
    isIdentifierPart c = true := by
  simp only [isIdentifierStart, isIdentifierPart, Bool.or_eq_true] at h ⊢
  exact h.imp_left .inl

theorem isIdentifierPart_of_mem {s : List Char} (h : isIdentifier s = true) {c : Char}
    (hc : c ∈ s) : isIdentifierPart c = true := by
  cases s with
  | nil => cases hc
  | cons d s =>
    simp only [isIdentifier, Bool.and_eq_true, List.all_eq_true] at h
    rcases List.mem_cons.1 hc with rfl | hmem
    · exact isIdentifierPart_of_start h.1
    · exact h.2 c hmem

end Text

/-! ## One marker -/

def markerWord (name : String) : List Char := name.toList.takeWhile isAsciiWordPart

/-- What the marker of a name is read as, if it is read as a marker. -/
def markerRead (name : String) : List String :=
  if (markerWord name).isEmpty then [] else [String.ofList (markerWord name)]

section Name

variable {name : String}

/-- An at-sign before a name that begins with no part of a marker stands for itself. -/
theorem marks_marker_of_stops (h : isIdentifier name.toList = true)
    (hstops : Stops isAsciiWordPart name.toList) : Marks (marker name) [] := by
  have hquiet : isInert name.toList = true :=
    isInert_of_quiet fun c hc ↦ not_special_of_isIdentifierPart (isIdentifierPart_of_mem h hc)
  refine ⟨.char '@' :: chars name.toList, fun s hs ↦ ?_, names_chars name.toList⟩
  have hhead : (name.toList ++ s).head? ≠ some '@' := by
    cases hname : name.toList with
    | nil =>
      rw [hname] at h
      cases h
    | cons c w =>
      rw [hname] at h
      have hc := not_special_of_isIdentifierPart (isIdentifierPart_of_mem h List.mem_cons_self)
      simpa using hc.1
  have htext : (marker name).toList ++ s = '@' :: (name.toList ++ s) := by
    rw [marker, String.toList_append]
    rfl
  have hword : ((name.toList ++ s).takeWhile isAsciiWordPart).isEmpty = true := by
    rw [(hstops.append hs).takeWhile_eq]
    rfl
  rw [htext, pieces, if_neg (by simp), if_neg hhead, if_pos hword, pieces_inert hquiet]
  rfl

/-- A marker is read as far as its name is of ASCII, and the rest of the name stays as text. -/
theorem marks_marker_of_isIdentifier (h : isIdentifier name.toList = true) :
    Marks (marker name) (markerRead name) := by
  unfold markerRead
  split
  · next hempty =>
    exact marks_marker_of_stops h (stops_of_takeWhile_eq (List.isEmpty_iff.1 hempty))
  · next hword =>
    have hparam : IsParamName (String.ofList (markerWord name)) := by
      rw [IsParamName, String.toList_ofList]
      exact ⟨mt List.isEmpty_iff.2 hword, List.all_eq_true.1 List.all_takeWhile⟩
    have hrest : isInert (name.toList.dropWhile isAsciiWordPart) = true :=
      isInert_of_quiet fun c hc ↦ not_special_of_isIdentifierPart
        (isIdentifierPart_of_mem h (List.dropWhile_subset _ hc))
    have htext : marker name = marker (String.ofList (markerWord name)) ++
        String.ofList (name.toList.dropWhile isAsciiWordPart) := by
      rw [marker, marker, String.append_assoc, ← String.ofList_append, markerWord,
        List.takeWhile_append_dropWhile, String.ofList_toList]
    rw [htext]
    apply (marks_marker hparam).append_inert
    · rwa [String.toList_ofList]
    · rw [String.toList_ofList]
      exact stops_dropWhile _ _

/-- A marker is read back as its name where that is of ASCII. -/
theorem markerRead_eq_self_iff (h : isIdentifier name.toList = true) :
    markerRead name = [name] ↔ name.toList.all isAscii = true := by
  have hself : markerWord name = name.toList ↔ name.toList.all isAscii = true := by
    rw [markerWord, List.takeWhile_eq_self_iff, List.all_eq_true]
    refine forall₂_congr fun c hc ↦ ?_
    rw [isAsciiWordPart_eq, isIdentifierPart_of_mem h hc, Bool.and_true]
  have hne : name.toList ≠ [] := by
    intro hnil
    rw [hnil] at h
    cases h
  rw [← hself, markerRead]
  constructor
  · intro hread
    split at hread
    · cases hread
    · have hname := congrArg String.toList (List.singleton_inj.1 hread)
      rwa [String.toList_ofList] at hname
  · intro hword
    rw [hword, if_neg (by simpa using hne), String.ofList_toList]

end Name

/-! ## The markers of a statement -/

section Written

variable {written : List ResolvedProperty} {d : Dialect} {sql : String} {params : Params}

def markersRead (written : List ResolvedProperty) : List String :=
  written.flatMap fun p ↦ markerRead p.name

theorem markersRead_append (ps qs : List ResolvedProperty) :
    markersRead (ps ++ qs) = markersRead ps ++ markersRead qs :=
  List.flatMap_append

theorem length_markerRead_le (name : String) : (markerRead name).length ≤ 1 := by
  unfold markerRead
  split <;> simp

theorem length_markersRead_le (written : List ResolvedProperty) :
    (markersRead written).length ≤ written.length := by
  induction written with
  | nil => exact Nat.le_refl 0
  | cons p ps ih =>
    rw [markersRead, List.flatMap_cons, List.length_append, List.length_cons]
    exact (Nat.add_le_add (length_markerRead_le p.name) ih).trans_eq (Nat.add_comm ..)

/-- No marker makes up for one that is read short. -/
theorem markersRead_eq_names_iff (h : ∀ p ∈ written, isIdentifier p.name.toList = true) :
    markersRead written = written.map (·.name) ↔
      ∀ p ∈ written, p.name.toList.all isAscii = true := by
  induction written with
  | nil => simp [markersRead]
  | cons p ps ih =>
    have hself := markerRead_eq_self_iff (h p List.mem_cons_self)
    have hrest := ih fun q hq ↦ h q (List.mem_cons_of_mem p hq)
    rw [List.forall_mem_cons, ← hself, ← hrest, markersRead, List.flatMap_cons, List.map_cons,
      ← markersRead, ← List.singleton_append]
    constructor
    · intro heq
      have hlength := congrArg List.length heq
      have hshort := length_markersRead_le ps
      simp only [List.length_append, List.length_map, List.length_singleton] at hlength
      have hone : (markerRead p.name).length = 1 := by
        have hp := length_markerRead_le p.name
        omega
      exact List.append_inj heq (by simpa using hone)
    · rintro ⟨hp, hps⟩
      rw [hp, hps]

/-- The markers of these properties are read back as far as they are of ASCII. All of them are
read whole, and every bag binds the statement, just where the names are all of ASCII. -/
structure ReadsBack (d : Dialect) (sql : String) (params : Params)
    (written : List ResolvedProperty) : Prop where
  read : markers sql = markersRead written
  whole : (markers sql = written.map (·.name) ∧
      ∀ bag ∈ params.bags, ∃ bound, bindMarkers sql bag d = .ok bound) ↔
    ∀ p ∈ written, p.name.toList.all isAscii = true

/-- A bag with a value for each of the properties binds all markers that are read whole. -/
theorem readsBack_of_marks (hmarks : Marks sql (markersRead written))
    (hnames : ∀ p ∈ written, isIdentifier p.name.toList = true)
    (hnodup : (written.map (·.name)).Nodup)
    (hbags : ∀ bag ∈ params.bags, bag.entries.map (·.1) = written.map (·.name)) :
    ReadsBack d sql params written where
  read := hmarks.markers_eq
  whole := by
    rw [hmarks.markers_eq, markersRead_eq_names_iff hnames, and_iff_left_iff_imp]
    intro hascii bag hbag
    have hdistinct : bag.Distinct := by
      rw [ParamBag.Distinct, ParamBag.names, hbags bag hbag]
      exact hnodup
    have hlookup := map_lookup?_of_subset hdistinct (List.Subset.refl _)
    rw [hbags bag hbag, ← (markersRead_eq_names_iff hnames).2 hascii, ← hmarks.markers_eq]
      at hlookup
    exact ⟨_, bindMarkers_eq hlookup⟩

end Written

/-! ## Statements that write rows -/

/-- An entity whose table and columns are of ASCII, and whose properties are told apart by names
that are identifiers of any script. -/
structure EntityMeta.Identified (m : EntityMeta) : Prop extends m.Named where
  property : ∀ p ∈ m.properties, isIdentifier p.name.toList = true
  nodup : (m.properties.map (·.name)).Nodup

namespace StatementBuilder

variable {b : StatementBuilder} {d : Dialect} {properties : List ResolvedProperty}

/-- Markers with texts that have none before them, one for each property. -/
theorem marks_properties (hm : b.entity.Identified) (separator : String)
    (hinert : isInert separator.toList = true) (hne : separator.toList ≠ [])
    (hstops : Stops isAsciiWordPart separator.toList)
    (hproperties : properties ⊆ b.entity.properties) (before : ResolvedProperty → String)
    (hbefore : ∀ p ∈ properties, isInert (before p).toList = true) :
    Marks (separator.intercalate (properties.map fun p ↦ before p ++ marker p.name))
      (markersRead properties) := by
  have hpart (p : ResolvedProperty) (hp : p ∈ properties) :
      Marks (before p ++ marker p.name) (markerRead p.name) :=
    (marks_marker_of_isIdentifier (hm.property p (hproperties hp))).inert_append (hbefore p hp)
  have hparts : ∀ part ∈ properties.map fun p ↦ before p ++ marker p.name,
      Marks part (markers part) := by
    intro part hmem
    obtain ⟨p, hp, rfl⟩ := List.mem_map.1 hmem
    rw [(hpart p hp).markers_eq]
    exact hpart p hp
  have h := marks_intercalate hinert hne hstops hparts
  rw [List.flatMap_map] at h
  rwa [markersRead, ← List.flatMap_congr fun p hp ↦ (hpart p hp).markers_eq]

theorem marks_assignments (hm : b.entity.Identified) (separator : String)
    (hinert : isInert separator.toList = true) (hne : separator.toList ≠ [])
    (hstops : Stops isAsciiWordPart separator.toList)
    (hproperties : properties ⊆ b.entity.properties) :
    Marks (b.assignments separator properties) (markersRead properties) :=
  marks_properties hm separator hinert hne hstops hproperties _ fun p hp ↦
    isInert_append_string (isInert_column hm.toNamed (hproperties hp)) (by decide)

theorem marks_keyed (hm : b.entity.Identified) {pre : String} (hpre : isInert pre.toList = true) :
    Marks (pre ++ b.assignments " AND " b.keys) (markersRead b.keys) :=
  (marks_assignments hm " AND " (by decide) (by decide) (by decide) keys_subset).inert_append hpre

/-- An update has the markers of what it sets and then those of its keys. -/
theorem marks_update (hm : b.entity.Identified) {parts : UpdateParts}
    (hparts : b.updateParts = .ok parts) :
    Marks parts.sql (markersRead (b.entity.updateProperties ++ b.keys)) := by
  have hsets := marks_assignments hm ", " (by decide) (by decide) (by decide)
    EntityMeta.updateProperties_subset
  have hkeys := marks_assignments hm " and " (by decide) (by decide) (by decide)
    (keys_subset (b := b))
  have hwhere := hkeys.inert_append (a := " where ") (by decide)
  have hpre : isInert ("update " ++ b.table ++ " set ").toList = true :=
    isInert_append_string (isInert_append_string (by decide) (isInert_table hm.toNamed)) (by decide)
  have h := (hsets.append hwhere (by simp) (by simp [isAsciiWordPart])).inert_append hpre
  rw [(updateParts_eq_ok hparts).2.2, markersRead_append]
  simpa only [String.append_assoc] using h

/-- An insert has one marker for each property that it inserts. -/
theorem marks_insertText (hm : b.entity.Identified) {valuesKeyword : String}
    (hkeyword : isInert (") " ++ valuesKeyword ++ " (").toList = true) :
    Marks (b.insertText (b.columnList ", " b.entity.insertProperties)
      (", ".intercalate (b.entity.insertProperties.map fun p ↦ marker p.name)) valuesKeyword)
      (markersRead b.entity.insertProperties) := by
  have hinserted : b.entity.insertProperties ⊆ b.entity.properties :=
    EntityMeta.insertProperties_subset
  have hinto := isInert_insertInto hm.toNamed
  unfold insertText
  split
  · next hempty =>
    rw [properties_eq_nil_of_isEmpty hm.toNamed (by decide) hinserted hempty]
    exact marks_inert (isInert_append_string hinto (by decide))
  · have hmarkers := marks_properties hm ", " (by decide) (by decide) (by decide) hinserted
      (fun _ ↦ "") (fun _ _ ↦ rfl)
    simp only [String.empty_append] at hmarkers
    have hcolumns := isInert_columnList hm.toNamed ", " (by decide) hinserted
    have hpre := isInert_append_string (isInert_append_string (isInert_append_string hinto
      (b := " (") (by decide)) hcolumns) hkeyword
    have h := (hmarkers.append_inert (b := ")") (by decide) (by decide)).inert_append hpre
    simpa only [String.append_assoc] using h

/-- Every statement that writes a row or finds one by its key, and every batch of them, with the
properties whose markers stand in it. -/
structure ReadsBackWrites (b : StatementBuilder) : Prop where
  insert : ∀ record, ReadsBack b.dialect (b.insert record).sql (b.insert record).params
    b.entity.insertProperties
  insertBatch : ∀ records, ReadsBack b.dialect (b.insertBatch records).sql
    (b.insertBatch records).params b.entity.insertProperties
  update : ∀ record st, b.update record = .ok st →
    ReadsBack b.dialect st.sql st.params (b.entity.updateProperties ++ b.keys)
  updateBatch : ∀ records st, b.updateBatch records = .ok st →
    ReadsBack b.dialect st.sql st.params (b.entity.updateProperties ++ b.keys)
  delete : ∀ record st, b.delete record = .ok st → ReadsBack b.dialect st.sql st.params b.keys
  deleteBatch : ∀ records st, b.deleteBatch records = .ok st →
    ReadsBack b.dialect st.sql st.params b.keys
  selectById : ∀ key st, b.selectById (.composite key) = .ok st →
    ReadsBack b.dialect st.sql st.params b.keys

theorem names_of_allBags {bag : Record → Except Error ParamBag} {names : List String}
    (hbag : ∀ record other, bag record = .ok other → other.entries.map (·.1) = names)
    {records : List Record} {bags : List ParamBag} (h : allBags bag records = .ok bags) :
    ∀ other ∈ bags, other.entries.map (·.1) = names := by
  have hpairs := allBags_eq_ok.1 h
  clear h
  induction hpairs with
  | nil => nofun
  | cons hfirst _ ih => exact List.forall_mem_cons.2 ⟨hbag _ _ hfirst, ih⟩

section Bags

variable (hm : b.entity.Identified)
include hm

theorem insert_readsBack {valuesKeyword : String} {params : Params} (records : List Record)
    (hkeyword : isInert (") " ++ valuesKeyword ++ " (").toList = true)
    (hparams : params.bags = records.map fun r ↦ bagOf r b.entity.insertProperties) :
    ReadsBack d (b.insertWith valuesKeyword params).sql params b.entity.insertProperties := by
  refine readsBack_of_marks (marks_insertText hm hkeyword)
    (fun p hp ↦ hm.property p (EntityMeta.insertProperties_subset hp)) (nodup_inserted hm.nodup) ?_
  rw [hparams]
  intro bag hbag
  obtain ⟨record, -, rfl⟩ := List.mem_map.1 hbag
  exact (bagOf_inserted hm.nodup record).1

theorem update_readsBack {parts : UpdateParts} (hparts : b.updateParts = .ok parts)
    {params : Params} (hbags : ∀ bag ∈ params.bags, bag.entries.map (·.1) =
      b.entity.updateProperties.map (·.name) ++ b.keys.map (·.name)) :
    ReadsBack d parts.sql params (b.entity.updateProperties ++ b.keys) := by
  have hsubset : b.entity.updateProperties ++ b.keys ⊆ b.entity.properties :=
    List.append_subset.2 ⟨EntityMeta.updateProperties_subset, keys_subset⟩
  rw [← List.map_append] at hbags
  refine readsBack_of_marks (marks_update hm hparts) (fun p hp ↦ hm.property p (hsubset hp)) ?_
    hbags
  rw [List.map_append]
  exact nodup_updated hm.nodup

theorem keyed_readsBack {pre : String} (hpre : isInert pre.toList = true) {params : Params}
    (hbags : ∀ bag ∈ params.bags, bag.entries.map (·.1) = b.keys.map (·.name)) :
    ReadsBack d (pre ++ b.assignments " AND " b.keys) params b.keys :=
  readsBack_of_marks (marks_keyed hm hpre) (fun p hp ↦ hm.property p (keys_subset hp))
    (nodup_keys hm.nodup) hbags

theorem names_of_updateBag {parts : UpdateParts} (hparts : b.updateParts = .ok parts)
    (record : Record) (bag : ParamBag) (h : updateBag record parts.sets parts.keys = .ok bag) :
    bag.entries.map (·.1) = b.entity.updateProperties.map (·.name) ++ b.keys.map (·.name) := by
  rw [(updateParts_eq_ok hparts).1, (updateParts_eq_ok hparts).2.1] at h
  obtain ⟨_, _, hnames, _⟩ := updateBag_entries (nodup_updated hm.nodup) h
  exact hnames

theorem names_of_keyBag (record : Record) (bag : ParamBag) (h : keyBag record b.keys = .ok bag) :
    bag.entries.map (·.1) = b.keys.map (·.name) :=
  (keyBag_entries (nodup_keys hm.nodup) h).1

/-- Each kind of write is read back property by property. -/
theorem readsBackWrites : b.ReadsBackWrites where
  insert record := insert_readsBack hm [record] (by decide) rfl
  insertBatch records := insert_readsBack hm records (by decide) rfl
  update record st h := by
    unfold StatementBuilder.update at h
    obtain ⟨parts, hparts, h⟩ := bind_eq_ok.1 h
    obtain ⟨bag, hbag, h⟩ := bind_eq_ok.1 h
    cases h
    exact update_readsBack hm hparts
      (List.forall_mem_singleton.2 (names_of_updateBag hm hparts record bag hbag))
  updateBatch records st h := by
    unfold StatementBuilder.updateBatch at h
    obtain ⟨parts, hparts, h⟩ := bind_eq_ok.1 h
    obtain ⟨bags, hbags, h⟩ := bind_eq_ok.1 h
    cases h
    exact update_readsBack hm hparts (names_of_allBags (names_of_updateBag hm hparts) hbags)
  delete record st h := by
    unfold StatementBuilder.delete at h
    obtain ⟨keys, hkeys, h⟩ := bind_eq_ok.1 h
    obtain rfl := keyProperties_eq_ok hkeys
    obtain ⟨bag, hbag, h⟩ := bind_eq_ok.1 h
    cases h
    exact keyed_readsBack hm (isInert_deletePrefix hm.toNamed)
      (List.forall_mem_singleton.2 (names_of_keyBag hm record bag hbag))
  deleteBatch records st h := by
    unfold StatementBuilder.deleteBatch at h
    obtain ⟨keys, hkeys, h⟩ := bind_eq_ok.1 h
    obtain rfl := keyProperties_eq_ok hkeys
    obtain ⟨bags, hbags, h⟩ := bind_eq_ok.1 h
    cases h
    exact keyed_readsBack hm (isInert_deletePrefix hm.toNamed)
      (names_of_allBags (names_of_keyBag hm) hbags)
  selectById key st h := by
    unfold StatementBuilder.selectById at h
    obtain ⟨keys, hkeys, h⟩ := bind_eq_ok.1 h
    obtain rfl := keyProperties_eq_ok hkeys
    obtain ⟨bag, hbag, h⟩ := bind_eq_ok.1 h
    cases h
    exact keyed_readsBack hm (isInert_selectByIdPrefix hm.toNamed)
      (List.forall_mem_singleton.2 (names_of_keyBag hm key bag hbag))

end Bags

end StatementBuilder

/-- The markers of every statement that an entity writes with, or finds a row by its key with, are
read back as far as the names of its properties are of ASCII: the writer writes whole names. -/
theorem markers_read_back_iff_ascii {registry : Registry} (hregistry : registry.Reachable)
    {descriptor : EntityDescriptor} {m : EntityMeta}
    (hresolve : (registry.resolve descriptor).1 = .ok m) (hnamed : m.Named)
    (hproperties : ∀ p ∈ m.properties, isIdentifier p.name.toList = true) (dialect : Dialect) :
    StatementBuilder.ReadsBackWrites ⟨m, dialect⟩ :=
  StatementBuilder.readsBackWrites
    ⟨hnamed, hproperties, Registry.nodup_names_of_resolve hregistry hresolve⟩

/-- An entity with a name of ASCII beside one that is not. -/
theorem markers_read_back_iff_ascii_umlaut :
    let descriptor : EntityDescriptor := ⟨"Box", none, [⟨"Id", none, true, false, false⟩,
      ⟨"Größe", some "SIZE", false, false, false⟩]⟩
    ∃ m, ((Registry.empty .upper).resolve descriptor).1 = .ok m ∧ m.Named ∧
      (∀ p ∈ m.properties, isIdentifier p.name.toList = true) ∧
      StatementBuilder.ReadsBackWrites ⟨m, .sqlite⟩ := by
  intro descriptor
  have hresolve : ((Registry.empty .upper).resolve descriptor).1 = .ok ⟨_, _, _⟩ := rfl
  refine ⟨_, hresolve, ⟨by decide, by decide⟩, by decide, ?_⟩
  exact markers_read_back_iff_ascii (.empty .upper) hresolve ⟨by decide, by decide⟩ (by decide)
    .sqlite

/-- The update of such an entity asks for a value that its bag does not have. -/
theorem update_marker_read_short :
    let descriptor : EntityDescriptor := ⟨"Box", none, [⟨"Id", none, true, false, false⟩,
      ⟨"Größe", some "SIZE", false, false, false⟩]⟩
    let m : EntityMeta := ⟨"Box", "BOX", [⟨"Id", "ID", true, false, false⟩,
      ⟨"Größe", "SIZE", false, false, false⟩]⟩
    let bag : ParamBag := ⟨[("Größe", .int 3), ("Id", .int 1)]⟩
    ((Registry.empty .upper).resolve descriptor).1 = .ok m ∧ m.Named ∧
      (∀ p ∈ m.properties, isIdentifier p.name.toList = true) ∧
      StatementBuilder.update ⟨m, .sqlite⟩ (.ofList [("Id", .int 1), ("Größe", .int 3)]) =
        .ok ⟨"update BOX set SIZE = @Größe where ID = @Id", .single bag⟩ ∧
      bindMarkers "update BOX set SIZE = @Größe where ID = @Id" bag .sqlite =
        .error (.validation (.missingParameter "Gr")) := by
  refine ⟨by decide +kernel, ⟨by decide, by decide⟩, by decide, rfl, rfl⟩

end EntitySql
