import ClassScribe.Proofs.Json.Reading
import ClassScribe.Proofs.Lookup
import ClassScribe.Proofs.Schema.Decoding
import ClassScribe.Schema.JsonFormat
import ClassScribe.Schema.Written

/-! # Specifications are read as they have been written

Each part of a specification is read from the document that it is written as, whatever the order of the
fields is (`ClassSpec.reads_back`). Only numbers may come back from a text as other ones. -/

namespace ClassScribe

namespace Value

theorem perm_setField {key : String} {value : Value} {fields : List (String × Value)}
    (h : key ∉ fields.map (·.1)) : (setField key value fields).Perm ((key, value) :: fields) := by
  induction fields with
  | nil => exact .refl _
  | cons f fields ih =>
      obtain ⟨k, v⟩ := f
      rw [List.map_cons, List.mem_cons, not_or] at h
      unfold setField
      rw [if_neg h.1]
      split
      · exact .refl _
      · exact ((ih h.2).cons _).trans (.swap _ _ _)

theorem perm_ofFields {fields : List (String × Value)} (h : (fields.map (·.1)).Nodup) :
    (ofFields fields).Perm fields := by
  have hfold (acc : List (String × Value)) (hacc : ((fields ++ acc).map (·.1)).Nodup) :
      (fields.foldl (fun acc f => setField f.1 f.2 acc) acc).Perm (fields ++ acc) := by
    clear h
    induction fields generalizing acc with
    | nil => exact .refl _
    | cons f fields ih =>
        rw [List.cons_append, List.map_cons, List.nodup_cons] at hacc
        have hset : (setField f.1 f.2 acc).Perm (f :: acc) := by
          refine perm_setField fun hmem => hacc.1 ?_
          rw [List.map_append]
          exact List.mem_append_right _ hmem
        have hmove : (fields ++ setField f.1 f.2 acc).Perm (f :: (fields ++ acc)) :=
          (hset.append_left fields).trans List.perm_middle
        have hnodup : ((fields ++ setField f.1 f.2 acc).map (·.1)).Nodup :=
          (hmove.map _).symm.nodup (List.nodup_cons.mpr hacc)
        rw [List.foldl_cons]
        exact (ih _ hnodup).trans hmove
  have hall := hfold [] (by rwa [List.append_nil])
  rwa [List.append_nil] at hall

/-! ### Depths -/

@[simp] theorem depth_text (s : String) : (text s).depth = 0 := rfl

theorem depthOfItems_le {items : List Value} {n : Nat} : depthOfItems items ≤ n ↔ ∀ v ∈ items, v.depth ≤ n := by
  induction items with
  | nil => simp [depthOfItems]
  | cons v items ih => rw [depthOfItems, max_le_iff, ih, List.forall_mem_cons]

theorem depthOfFields_le {fields : List (String × Value)} {n : Nat} :
    depthOfFields fields ≤ n ↔ ∀ f ∈ fields, f.2.depth ≤ n := by
  induction fields with
  | nil => simp [depthOfFields]
  | cons f fields ih => rw [depthOfFields, max_le_iff, ih, List.forall_mem_cons]

theorem depth_sequence_le {items : List Value} {n : Nat} :
    (sequence items).depth ≤ n + 1 ↔ ∀ v ∈ items, v.depth ≤ n := by
  rw [depth, Nat.add_le_add_iff_right, depthOfItems_le]

theorem depth_mapping_le {fields : List (String × Value)} {n : Nat} :
    (mapping fields).depth ≤ n + 1 ↔ ∀ f ∈ fields, f.2.depth ≤ n := by
  rw [depth, Nat.add_le_add_iff_right, depthOfFields_le]

theorem depth_texts_le (ls : List String) : (texts ls).depth ≤ 1 := by
  rw [texts, depth_sequence_le, List.forall_mem_map]
  exact fun _ _ => Nat.le_refl 0

end Value

theorem FieldOrder.depth_arrange_le (order : FieldOrder) {fields : List (String × Value)} {n : Nat}
    (h : (fields.map (·.1)).Nodup) :
    (Value.mapping (order.arrange fields)).depth ≤ n + 1 ↔ ∀ f ∈ fields, f.2.depth ≤ n := by
  rw [Value.depth_mapping_le]
  exact forall_congr' fun f => imp_congr_left (order.perm fields h).mem_iff

/-- The fields in the order of their keys. -/
def FieldOrder.sorted : FieldOrder := ⟨Value.ofFields, fun _ h => Value.perm_ofFields h⟩

theorem FieldOrder.sorted_arrange : FieldOrder.sorted.arrange = Value.ofFields := rfl

theorem ClassSpec.written_sorted (s : ClassSpec) : s.written .sorted = s.toValue := by
  have himport (i : Import) : i.written .sorted = i.toValue := by
    rw [Import.written, Import.toValue, FieldOrder.sorted_arrange]
  have hparam (p : Param) : p.written .sorted = p.toValue := by
    rw [Param.written, Param.toValue, FieldOrder.sorted_arrange]
  have hmethod (m : Method) : m.written .sorted = m.toValue := by
    rw [Method.written, Method.toValue, FieldOrder.sorted_arrange]
  obtain ⟨name, kind, description, parent, imports, params, methods, scripts, functionId⟩ := s
  cases functionId with
  | none =>
      rw [ClassSpec.written, ClassSpec.toValue, FieldOrder.sorted_arrange, funext himport, funext hparam,
        funext hmethod]
  | some id =>
      rw [ClassSpec.written, ClassSpec.toValue, FieldOrder.sorted_arrange, funext himport, funext hparam,
        funext hmethod]

theorem mapM_eq_self {α : Type} {g : α → Option α} {xs : List α} :
    xs.mapM g = some xs ↔ ∀ x ∈ xs, g x = some x := by
  induction xs with
  | nil => simp
  | cons x xs ih =>
      rw [List.mapM_cons, List.forall_mem_cons, ← ih]
      simp [Option.bind_eq_some_iff]

/-! ### Records -/

namespace Json

variable {f : Number → Option Number}

theorem ofValuesBy_eq_map (vs : List Value) : ofValuesBy f vs = vs.map (ofValueBy f) := by
  induction vs with
  | nil => rfl
  | cons v vs ih => rw [ofValuesBy, ih, List.map_cons]

theorem readableMembers_ofFieldsBy (fields : List (String × Value)) :
    readableMembers (ofFieldsBy f fields) = some (fields.map fun (k, v) => (k, ofValueBy f v)) := by
  induction fields with
  | nil => rfl
  | cons field fields ih =>
      rw [ofFieldsBy, readableMembers, ih]
      rfl

theorem lookup_map (fields : List (String × Value)) (key : String) :
    (fields.map fun (k, v) => (k, ofValueBy f v)).lookup key = (fields.lookup key).map (ofValueBy f) := by
  induction fields with
  | nil => rfl
  | cons field fields ih =>
      rw [List.map_cons, List.lookup_cons, List.lookup_cons, ih]
      split <;> rfl

theorem length_filter_le_one {fields : List (String × Value)} (hn : (fields.map (·.1)).Nodup)
    (name : String) : (fields.filter fun f => f.1 == name).length ≤ 1 := by
  have hcount := List.nodup_iff_count_le_one.mp hn name
  rw [List.count_eq_length_filter, List.filter_map, List.length_map] at hcount
  exact hcount

/-- The fields of a record are found by their keys, in whatever order they are written. -/
theorem fields?_written (order : FieldOrder) (names : List String) {fields : List (String × Value)}
    (hn : (fields.map (·.1)).Nodup) :
    format.fields? names (ofValueBy f (.mapping (order.arrange fields))) =
      some (names.map fun name => (fields.lookup name).map (ofValueBy f)) := by
  have hperm := order.perm fields hn
  have hnodup : ((order.arrange fields).map (·.1)).Nodup := (hperm.map _).symm.nodup hn
  have hrecord : record? (ofValueBy f (.mapping (order.arrange fields))) =
      some (.named ((order.arrange fields).map fun (k, v) => (k, ofValueBy f v))) := by
    rw [ofValueBy, record?, readableMembers_ofFieldsBy]
    rfl
  have honce (name : String) : (((order.arrange fields).map fun (k, v) => (k, ofValueBy f v)).filter
      (·.1 == name)).length ≤ 1 := by
    rw [List.filter_map, List.length_map]
    exact length_filter_le_one hnodup name
  rw [Format.fields?, show format.record? = record? from rfl, hrecord, Option.bind_eq_bind, Option.bind_some,
    Format.arrange, if_pos (List.all_eq_true.mpr fun n _ => decide_eq_true (honce n))]
  refine congrArg some (List.map_congr_left fun name _ => ?_)
  rw [lookup_map, lookup_perm hperm hnodup]

theorem listOf_map {α β : Type} {read : Json → Option α} {write : β → Value} {result : β → Option α}
    (h : ∀ x, read (ofValueBy f (write x)) = result x) (xs : List β) :
    format.listOf read (ofValueBy f (.sequence (xs.map write))) = xs.mapM result := by
  have hlist : format.list? (ofValueBy f (.sequence (xs.map write))) =
      some (xs.map fun x => ofValueBy f (write x)) := by
    rw [ofValueBy, ofValuesBy_eq_map, List.map_map]
    rfl
  rw [Format.listOf, hlist, Option.bind_eq_bind, Option.bind_some, List.mapM_map]
  exact congrArg (List.mapM · xs) (funext h)

theorem listOf_map_some {α : Type} {read : Json → Option α} {write : α → Value} {xs : List α}
    (h : ∀ x ∈ xs, read (ofValueBy f (write x)) = some x) :
    format.listOf read (ofValueBy f (.sequence (xs.map write))) = some xs := by
  rw [listOf_map (fun _ => rfl)]
  exact mapM_eq_self.mpr h

theorem listOf_texts (ls : List String) :
    format.listOf format.text? (ofValueBy f (Value.texts ls)) = some ls :=
  listOf_map_some fun _ _ => rfl

end Json

/-! ### Parts of a specification -/

section
variable {f : Number → Option Number} {order : FieldOrder}
open Json

theorem import?_written (i : Import) : format.import? (ofValueBy f (i.written order)) = some i := by
  rw [Format.import?, Import.written, fields?_written order _ (by simp)]
  rfl

theorem paramValue?_toValue (v : ParamValue) :
    format.paramValue? (ofValueBy f v.toValue) = v.renumber? f := by
  cases v with
  | number n =>
      have hread : format.paramValue? (.number (f n)) =
          ((f n).map Value.number).bind fun _ => (f n).map ParamValue.number := rfl
      rw [ParamValue.toValue, ofValueBy, hread]
      cases hn : f n with
      | none => simp [ParamValue.renumber?, hn]
      | some m => simp [ParamValue.renumber?, hn]
  | text s => rfl
  | reference s => rfl

theorem param?_written (p : Param) : format.param? (ofValueBy f (p.written order)) = p.renumber? f := by
  have hread (description : Option Json) (hd : Format.orDefault (format.listOf format.text?) [] description =
      some p.description) : (do
        let key ← format.text? (.string (some p.key))
        let value ← format.paramValue? (ofValueBy f p.value.toValue)
        let description ← Format.orDefault (format.listOf format.text?) [] description
        pure (Param.mk key value description)) = p.renumber? f := by
    rw [paramValue?_toValue, hd, Param.renumber?]
    cases p.value.renumber? f with
    | none => rfl
    | some v => rfl
  rw [Format.param?, Param.written, fields?_written order _ (by split <;> simp)]
  cases hdescription : p.description.isEmpty with
  | true =>
      refine hread none ?_
      rw [List.isEmpty_iff.mp hdescription]
      rfl
  | false => exact hread (some (ofValueBy f (Value.texts p.description))) (listOf_texts _)

theorem type?_tag {t : ValueType} (h : t.IsParsed) : format.type? (.string (some t.tag)) = some t := by
  show (ValueType.ofTag t.tag).toOption = _
  rw [ValueType.ofTag_tag h]
  rfl

theorem optionalText?_optionalText (x : Option String) :
    optionalText? (ofValueBy f (Value.optionalText x)) = some x := by
  cases x with
  | none => rfl
  | some s => rfl

theorem method?_written {m : Method} (h : m.type.IsParsed) :
    format.method? (ofValueBy f (m.written order)) = some m := by
  rw [Format.method?, Method.written, fields?_written order _ (by simp)]
  show (do
    let type ← format.type? (.string (some m.type.tag))
    let description ← format.listOf format.text? (ofValueBy f (Value.texts m.description))
    let external ← optionalText? (ofValueBy f (Value.optionalText m.external))
    pure (Method.mk m.key m.argument type m.title description external m.origin)) = some m
  rw [type?_tag h, listOf_texts, optionalText?_optionalText]
  rfl

theorem kind?_name (k : ClassKind) : kind? (.string (some k.name)) = some k := by
  cases k <;> rfl

/-- A specification is read from the document that it is written as, with its numbers taken through the
function that the document has been made with. -/
theorem spec?_written {s : ClassSpec} (h : ∀ m ∈ s.methods, m.type.IsParsed) :
    format.spec? (ofValueBy f (s.written order)) = s.renumber? f := by
  have hread (functionId : Option Json) (hid : Format.orDefault optionalText? none functionId =
      some s.functionId) : (do
        let kind ← kind? (.string (some s.kind.name))
        let imports ← format.listOf format.import?
          (ofValueBy f (.sequence (s.imports.map (Import.written order))))
        let params ← format.listOf format.param?
          (ofValueBy f (.sequence (s.params.map (Param.written order))))
        let methods ← format.listOf format.method?
          (ofValueBy f (.sequence (s.methods.map (Method.written order))))
        let scripts ← format.listOf format.text? (ofValueBy f (Value.texts s.scripts))
        let functionId ← Format.orDefault optionalText? none functionId
        pure (ClassSpec.mk s.name kind s.description s.parent imports params methods scripts
          functionId)) = s.renumber? f := by
    rw [kind?_name, listOf_map_some fun i _ => import?_written i, listOf_map fun p => param?_written p,
      listOf_map_some fun m hm => method?_written (h m hm), listOf_texts, hid, ClassSpec.renumber?]
    cases s.params.mapM (Param.renumber? f) with
    | none => rfl
    | some params => rfl
  rw [Format.spec?, ClassSpec.written, fields?_written order _ (by split <;> simp)]
  cases hid : s.functionId with
  | none =>
      refine hread none ?_
      rw [hid]
      rfl
  | some id =>
      refine hread (some (.string (some id))) ?_
      rw [hid]
      rfl

end

/-! ### Reading again -/

namespace Json

mutual
theorem ofValueBy_some (v : Value) : ofValueBy some v = ofValue v := by
  match v with
  | .none => rfl
  | .bool _ => rfl
  | .number _ => rfl
  | .text _ => rfl
  | .sequence items => rw [ofValueBy, ofValue, ofValuesBy_some items]
  | .mapping fields => rw [ofValueBy, ofValue, ofFieldsBy_some fields]
theorem ofValuesBy_some (vs : List Value) : ofValuesBy some vs = ofValues vs := by
  match vs with
  | [] => rfl
  | v :: vs => rw [ofValuesBy, ofValues, ofValueBy_some v, ofValuesBy_some vs]
theorem ofFieldsBy_some (fields : List (String × Value)) : ofFieldsBy some fields = ofFields fields := by
  match fields with
  | [] => rfl
  | (k, v) :: fields => rw [ofFieldsBy, ofFields, ofValueBy_some v, ofFieldsBy_some fields]
end

theorem Holds.paramValue? {P : Number → Prop} {v : Json} (hv : v.Holds P) {n : Number}
    (h : format.paramValue? v = some (.number n)) : P n := by
  obtain ⟨_, -, h⟩ := Option.bind_eq_some_iff.mp h
  cases hv with
  | number hall =>
      obtain ⟨m, hm, heq⟩ := Option.map_eq_some_iff.mp h
      exact ParamValue.number.inj heq ▸ hall m hm
  | string =>
      obtain ⟨_, -, heq⟩ := Option.map_eq_some_iff.mp h
      cases heq
  | object _ =>
      dsimp only at h
      split at h
      · obtain ⟨_, -, heq⟩ := Option.map_eq_some_iff.mp h
        cases heq
      · cases h
  | null => cases h
  | bool => cases h
  | array _ => cases h

end Json

namespace ClassSpec

section
variable {c : Json.Codec} {reread : Number → Option Number} {s : ClassSpec}

theorem depth_import (order : FieldOrder) (i : Import) : (i.written order).depth ≤ 1 := by
  rw [Import.written, order.depth_arrange_le (by simp)]
  simp

theorem depth_value (v : ParamValue) : v.toValue.depth ≤ 1 := by
  cases v with
  | number n => exact Nat.zero_le 1
  | text x => exact Nat.zero_le 1
  | reference x => exact Value.depth_mapping_le.mpr (List.forall_mem_singleton.mpr (Nat.le_refl 0))

theorem depth_param (order : FieldOrder) (p : Param) : (p.written order).depth ≤ 2 := by
  rw [Param.written, order.depth_arrange_le (by split <;> simp), List.forall_mem_append]
  refine ⟨by simp [depth_value], ?_⟩
  split
  · exact List.forall_mem_nil _
  · exact List.forall_mem_singleton.mpr (Value.depth_texts_le _)

theorem depth_method (order : FieldOrder) (m : Method) : (m.written order).depth ≤ 2 := by
  have hexternal : (Value.optionalText m.external).depth ≤ 1 := by
    cases m.external with
    | none => exact Nat.zero_le 1
    | some s => exact Nat.zero_le 1
  rw [Method.written, order.depth_arrange_le (by simp)]
  simp [Value.depth_texts_le, hexternal]

/-- A specification does not nest deep: it holds lists of records that hold records and lists. -/
theorem depth_written (order : FieldOrder) (s : ClassSpec) : (s.written order).depth ≤ 4 := by
  have hlist {α : Type} {write : α → Value} (hwrite : ∀ x, (write x).depth ≤ 2) (xs : List α) :
      (Value.sequence (xs.map write)).depth ≤ 3 := by
    rw [Value.depth_sequence_le, List.forall_mem_map]
    exact fun x _ => hwrite x
  have himports := hlist (fun i => (depth_import order i).trans (by decide)) s.imports
  have hparams := hlist (depth_param order) s.params
  have hmethods := hlist (depth_method order) s.methods
  have hscripts := (Value.depth_texts_le s.scripts).trans (show 1 ≤ 3 by decide)
  rw [ClassSpec.written, order.depth_arrange_le (by split <;> simp), List.forall_mem_append]
  refine ⟨by simp [himports, hparams, hmethods, hscripts], ?_⟩
  split
  · exact List.forall_mem_singleton.mpr (Nat.zero_le 3)
  · exact List.forall_mem_nil _

theorem spec?_write (hc : c.RereadsBy reread) (order : FieldOrder) (h : ∀ m ∈ s.methods, m.type.IsParsed) :
    c.reader.spec? (c.write (s.written order)) = s.renumber? reread := by
  rw [Json.Codec.spec?_reader, hc.reads _ ((depth_written order s).trans (by decide)), Option.bind_some]
  exact spec?_written h

end

end ClassSpec
end ClassScribe
