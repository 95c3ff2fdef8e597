import ClassScribe.Emission.EmittedMap
import ClassScribe.Proofs.Emission.Enumeration
import ClassScribe.Proofs.Number.Whole

/-! # The lookup in an emitted enumeration

The map in the source of an enumeration is read as it has been written (`read?_map`), so that the lookup in
it finds the first entry whose value has the wanted text there. That text is the one of the table, but for
integers that are not binary numbers: below `2 ^ 53` all integers are (`integerText_eq`). -/

namespace ClassScribe.EmittedMap

/-! ### Entries that are listed -/

/-- A character of the key of an entry. -/
def isKeyPart (c : Char) : Bool := c.isUpper || c.isDigit || c == '_'

/-- The name of a constant: a capital, and capitals, digits and underscores behind it. -/
def isConstantKey : List Char → Bool
  | [] => false
  | c :: rest => c.isUpper && rest.all isKeyPart

/-- An integer of 64 bits, or a text on one line. -/
def isListed : ParamValue → Bool
  | .number (.int i) => decide (Number.InRange i)
  | .text s => s.toList.all fun c => !isLineTerminator c
  | .number (.float _) | .reference _ => false

/-- Parameter constants with different names, and with integers and texts as values. -/
structure AllListed (params : List Param) : Prop where
  distinct : (params.map (·.key)).Nodup
  keys : ∀ p ∈ params, isConstantKey p.key.toList = true
  values : ∀ p ∈ params, isListed p.value = true

/-- The value of an entry when the source is run. -/
def datum? : ParamValue → Option Datum
  | .number (.int i) => (Binary64.ofInt? i).map .number
  | .text s => some (.text s)
  | .number (.float _) | .reference _ => none

/-- The text that the value of an entry is found by when the source is run. -/
def runText (v : ParamValue) : String := ((datum? v).map Datum.string).getD v.lookupText

/-! ### Reading literals -/

theorem isKeyPart_spec {c : Char} (h : isKeyPart c = true) :
    c ≠ '\'' ∧ c ≠ '\\' ∧ isLineTerminator c = false := by
  refine ⟨?_, ?_, ?_⟩
  · rintro rfl
    exact absurd h (by decide)
  · rintro rfl
    exact absurd h (by decide)
  · rw [← Bool.not_eq_true]
    intro hc
    simp only [isLineTerminator, Bool.or_eq_true, beq_iff_eq] at hc
    rcases hc with ((rfl | rfl) | rfl) | rfl <;> exact absurd h (by decide)

theorem isKeyPart_of_isConstantKey {key : List Char} (h : isConstantKey key = true) :
    ∀ c ∈ key, isKeyPart c = true := by
  cases key with
  | nil => cases h
  | cons c rest =>
      rw [isConstantKey, Bool.and_eq_true] at h
      refine List.forall_mem_cons.mpr ⟨?_, List.all_eq_true.mp h.2⟩
      rw [isKeyPart, h.1]
      rfl

theorem isLineTerminator_of_isListed {s : String} (h : isListed (.text s) = true) :
    ∀ c ∈ s.toList, isLineTerminator c = false := by
  intro c hc
  rw [← Bool.not_eq_true']
  exact List.all_eq_true.mp h c hc

theorem readQuoted?_quotedChar {c : Char} (hc : isLineTerminator c = false) (tail : List Char) :
    readQuoted? (ParamValue.quotedChar c ++ tail) =
      (readQuoted? tail).map fun (s, r) => (c :: s, r) := by
  unfold ParamValue.quotedChar
  split
  · next h =>
      subst h
      rfl
  · split
    · next h =>
        subst h
        rfl
    · next hslash hquote =>
        rw [List.singleton_append, readQuoted?, if_neg (by rw [hc]; simp [hslash])]
        · exact hquote
        · intro d r h
          exact absurd h hslash

theorem readQuoted?_quoted {s : List Char} (hs : ∀ c ∈ s, isLineTerminator c = false)
    (rest : List Char) : readQuoted? (s.flatMap ParamValue.quotedChar ++ '\'' :: rest) = some (s, rest) := by
  induction s with
  | nil => rfl
  | cons c s ih =>
      obtain ⟨hc, hs⟩ := List.forall_mem_cons.mp hs
      rw [List.flatMap_cons, List.append_assoc, readQuoted?_quotedChar hc, ih hs]
      rfl

/-- The name of a constant stands between quotes as it is. -/
theorem readQuoted?_key {key : List Char} (hkey : isConstantKey key = true) (rest : List Char) :
    readQuoted? (key ++ '\'' :: rest) = some (key, rest) := by
  have hplain : key.flatMap ParamValue.quotedChar = key := by
    have hchars := isKeyPart_of_isConstantKey hkey
    clear hkey
    induction key with
    | nil => rfl
    | cons c key ih =>
        obtain ⟨hc, hchars⟩ := List.forall_mem_cons.mp hchars
        obtain ⟨hquote, hslash, -⟩ := isKeyPart_spec hc
        rw [List.flatMap_cons, ih hchars, ParamValue.quotedChar, if_neg hslash, if_neg hquote]
        rfl
  conv_lhs => rw [← hplain]
  exact readQuoted?_quoted (fun c hc => (isKeyPart_spec (isKeyPart_of_isConstantKey hkey c hc)).2.2) rest

theorem readDecimal?_digitsOf (negative : Bool) (n : Nat) {c : Char} (hc : c.isDigit = false)
    (rest : List Char) : readDecimal? negative (digitsOf n ++ c :: rest) =
      (Binary64.ofRatio? negative n 1).map fun x => (x, c :: rest) := by
  have hdigits : ∀ d ∈ digitsOf n, d.isDigit = true := fun d hd => isDigit_of_mem_digitsOf hd
  have htake : (digitsOf n ++ c :: rest).takeWhile Char.isDigit = digitsOf n := by
    rw [List.takeWhile_append_of_pos hdigits, List.takeWhile_cons_of_neg (by rw [hc]; decide),
      List.append_nil]
  have hdrop : (digitsOf n ++ c :: rest).dropWhile Char.isDigit = c :: rest := by
    rw [List.dropWhile_append_of_pos hdigits, List.dropWhile_cons_of_neg (by rw [hc]; decide)]
  have hform : ¬(digitsOf n = [] ∨ (digitsOf n).head? = some '0' ∧ (digitsOf n).length ≠ 1) := by
    rintro (hnil | ⟨hzero, hlength⟩)
    · exact digitsOf_ne_nil n hnil
    · rcases Nat.eq_zero_or_pos n with rfl | hn
      · exact hlength rfl
      · exact head?_digitsOf_ne hn hzero
  unfold readDecimal?
  dsimp only
  rw [htake, hdrop, if_neg hform, digitsOf, Nat.ofDigitChars_ten_toDigits]

theorem readLiteral?_intText (i : Int) {c : Char} (hc : c.isDigit = false) (rest : List Char) :
    readLiteral? (intText i ++ c :: rest) =
      (Binary64.ofInt? i).map fun x => (.number x, c :: rest) := by
  unfold intText Binary64.ofInt?
  split
  · next hi =>
      rw [decide_eq_true hi, List.cons_append, readLiteral?, readDecimal?_digitsOf _ _ hc, Option.map_map]
      rfl
  · next hi =>
      obtain ⟨d, ds, hds⟩ := List.exists_cons_of_ne_nil (digitsOf_ne_nil i.natAbs)
      have hd : d.isDigit = true := isDigit_of_mem_digitsOf (n := i.natAbs) (by rw [hds]; simp)
      have hread := readDecimal?_digitsOf false i.natAbs hc rest
      rw [hds, List.cons_append] at hread
      rw [decide_eq_false hi, hds, List.cons_append, readLiteral?, hread, Option.map_map]
      · rfl
      · intro r h
        rw [(List.cons.inj h).1] at hd
        exact absurd hd (by decide)
      · intro r h
        rw [(List.cons.inj h).1] at hd
        exact absurd hd (by decide)

theorem exists_datum? {v : ParamValue} (h : isListed v = true) : ∃ d, datum? v = some d := by
  cases v with
  | reference _ => cases h
  | text s => exact ⟨.text s, rfl⟩
  | number n =>
      cases n with
      | float _ => cases h
      | int i =>
          obtain ⟨hlow, hhigh⟩ : Number.InRange i := of_decide_eq_true h
          rcases Nat.eq_zero_or_pos i.natAbs with hzero | hpos
          · obtain rfl : i = 0 := Int.natAbs_eq_zero.mp hzero
            exact ⟨_, rfl⟩
          · have hlt : i.natAbs < 2 ^ 65 := by omega
            have hfar : i.natAbs < 2 ^ 200 := hlt.trans (Nat.pow_lt_pow_right (by decide) (by decide))
            obtain ⟨x, hx, -⟩ := @Binary64.exists_ofRatio? _ (decide (i < 0)) hpos hfar
            refine ⟨.number x, ?_⟩
            rw [datum?, Binary64.ofInt?, hx]
            rfl

theorem readLiteral?_literal {v : ParamValue} (h : isListed v = true) {d : Datum} (hd : datum? v = some d)
    {c : Char} (hc : c.isDigit = false) (rest : List Char) :
    readLiteral? (v.literal.toList ++ c :: rest) = some (d, c :: rest) := by
  cases v with
  | reference _ => cases h
  | text s =>
      cases hd
      rw [ParamValue.literal, String.toList_ofList, ParamValue.quote_eq_flatMap, List.cons_append,
        List.cons_append, List.append_assoc, List.singleton_append, readLiteral?,
        readQuoted?_quoted (isLineTerminator_of_isListed h)]
      simp
  | number n =>
      cases n with
      | float _ => cases h
      | int i =>
          rw [ParamValue.literal, String.toList_ofList, Number.literalText, readLiteral?_intText i hc]
          obtain ⟨x, hx, rfl⟩ := Option.map_eq_some_iff.mp hd
          rw [hx]
          rfl

/-! ### Reading the map -/

theorem dropLead?_append (p s : List Char) : Text.dropLead? p (p ++ s) = some s :=
  Text.dropLead?_eq_some.mpr rfl

theorem readProperty?_text {p : Param} (hkey : isConstantKey p.key.toList = true)
    (hv : isListed p.value = true) {d : Datum} (hd : datum? p.value = some d) (rest : List Char) :
    readProperty? ((ClassText.MapEntry.text ⟨p.key, p.value.literal⟩).toList ++ rest) =
      some ((p.key, d), rest) := by
  have htext : (ClassText.MapEntry.text ⟨p.key, p.value.literal⟩).toList ++ rest =
      "    '".toList ++ (p.key.toList ++ '\'' :: (": ".toList ++
        (p.value.literal.toList ++ ',' :: '\n' :: rest))) := by
    unfold ClassText.MapEntry.text
    simp only [String.toList_append, List.append_assoc]
    rfl
  have hend : Text.dropLead? ",\n".toList (',' :: '\n' :: rest) = some rest :=
    dropLead?_append ",\n".toList rest
  rw [htext, readProperty?, dropLead?_append]
  dsimp only [bind, Option.bind]
  rw [readQuoted?_key hkey]
  dsimp only
  rw [dropLead?_append]
  dsimp only
  rw [readLiteral?_literal hv hd (by decide)]
  dsimp only
  rw [hend, String.ofList_toList]
  rfl

/-- The values of entries that are listed. -/
def listed (params : List Param) : List (String × Datum) :=
  params.filterMap fun p => (datum? p.value).map fun d => (p.key, d)

theorem listed_cons {p : Param} {d : Datum} (hd : datum? p.value = some d) (params : List Param) :
    listed (p :: params) = (p.key, d) :: listed params := by
  unfold listed
  rw [List.filterMap_cons_some (b := (p.key, d)) (by rw [hd]; rfl)]

/-- The lines of the map are read as the entries. -/
theorem readProperties?_lines {params : List Param}
    (hkeys : ∀ p ∈ params, isConstantKey p.key.toList = true)
    (hvalues : ∀ p ∈ params, isListed p.value = true) (rest : List Char) :
    readProperties? ((String.join ((ClassText.entries params).map ClassText.MapEntry.text)).toList ++
      '\x7d' :: rest) = some (listed params, rest) := by
  induction params with
  | nil =>
      rw [readProperties?]
      rfl
  | cons p params ih =>
      obtain ⟨hkey, hkeys⟩ := List.forall_mem_cons.mp hkeys
      obtain ⟨hvalue, hvalues⟩ := List.forall_mem_cons.mp hvalues
      obtain ⟨d, hd⟩ := exists_datum? hvalue
      have ih := ih hkeys hvalues
      have hlines : (String.join ((ClassText.entries (p :: params)).map ClassText.MapEntry.text)).toList =
          (ClassText.MapEntry.text ⟨p.key, p.value.literal⟩).toList ++
            (String.join ((ClassText.entries params).map ClassText.MapEntry.text)).toList := by
        rw [ClassText.entries, List.map_cons, List.map_cons, String.join_cons, String.toList_append]
        rfl
      rw [hlines, List.append_assoc, listed_cons hd]
      generalize (String.join _).toList ++ '\x7d' :: rest = tail at ih ⊢
      have hentry := readProperty?_text hkey hvalue hd tail
      have hbrace : Text.dropLead? ['\x7d']
          ((ClassText.MapEntry.text ⟨p.key, p.value.literal⟩).toList ++ tail) = none := by
        unfold ClassText.MapEntry.text
        simp only [String.toList_append, List.append_assoc]
        rfl
      rw [readProperties?, hbrace]
      dsimp only
      split
      · next hnone =>
          rw [hentry] at hnone
          cases hnone
      · next he =>
          rw [hentry] at he
          cases he
          rw [ih]
          rfl

theorem keys_listed {params : List Param} (hvalues : ∀ p ∈ params, isListed p.value = true) :
    (listed params).map (·.1) = params.map (·.key) := by
  induction params with
  | nil => rfl
  | cons p params ih =>
      obtain ⟨hvalue, hvalues⟩ := List.forall_mem_cons.mp hvalues
      obtain ⟨d, hd⟩ := exists_datum? hvalue
      rw [listed_cons hd, List.map_cons, List.map_cons, ih hvalues]

/-- Entries with different keys all keep their places in the object. -/
theorem foldl_putEntry {object entries : List (String × Datum)}
    (h : ((object ++ entries).map (·.1)).Nodup) : entries.foldl putEntry object = object ++ entries := by
  induction entries generalizing object with
  | nil => simp
  | cons e entries ih =>
      have hnew : object.any (·.1 == e.1) = false := by
        rw [← Bool.not_eq_true, List.any_eq_true]
        rintro ⟨f, hf, heq⟩
        rw [List.map_append, List.nodup_append] at h
        exact h.2.2 f.1 (List.mem_map_of_mem hf) e.1 (by simp) (beq_iff_eq.mp heq)
      have hput : putEntry object e = object ++ [e] := by rw [putEntry, hnew, if_neg (by decide)]
      have hmove : object ++ e :: entries = object ++ [e] ++ entries := by simp
      rw [List.foldl_cons, hput, hmove, ih (by rwa [← hmove])]

/-- The map in the source is read as the entries. -/
theorem read?_map {s : ClassSpec} (h : AllListed s.params) :
    read? s.name (ClassText.map s).toList = some (listed s.params) := by
  have htext : (ClassText.map s).toList = opening s.name ++
      ((String.join ((ClassText.entries s.params).map ClassText.MapEntry.text)).toList ++
        '\x7d' :: ");\n".toList) := by
    unfold ClassText.map opening
    simp only [String.toList_append, List.append_assoc]
    rfl
  rw [htext, read?, dropLead?_append]
  dsimp only [bind, Option.bind]
  rw [readProperties?_lines h.keys h.values]
  dsimp only
  rw [if_pos rfl, foldl_putEntry, List.nil_append]
  rw [List.nil_append, keys_listed h.values]
  exact h.distinct

/-! ### The lookup -/

/-- The lookup finds the first entry whose value has the wanted text when the source is run. -/
theorem valueForString?_listed {params : List Param} (hvalues : ∀ p ∈ params, isListed p.value = true)
    (wanted : String) : valueForString? (listed params) wanted =
      (params.find? fun p => runText p.value == wanted).map (·.key) := by
  induction params with
  | nil => rfl
  | cons p params ih =>
      obtain ⟨hvalue, hvalues⟩ := List.forall_mem_cons.mp hvalues
      obtain ⟨d, hd⟩ := exists_datum? hvalue
      have htext : runText p.value = d.string := by
        rw [runText, hd]
        rfl
      have ih := ih hvalues
      unfold valueForString? at ih ⊢
      rw [listed_cons hd, List.find?_cons, List.find?_cons, htext]
      dsimp only
      split
      · rfl
      · exact ih

theorem runText_int {i : Int} (hi : i.natAbs < 2 ^ 53) :
    runText (.number (.int i)) = String.ofList (intText i) := by
  rcases Nat.eq_zero_or_pos i.natAbs with hzero | hpos
  · obtain rfl : i = 0 := Int.natAbs_eq_zero.mp hzero
    rfl
  · obtain ⟨x, hx, hnegative, hcounts⟩ := @Binary64.ofRatio?_of_lt _ (decide (i < 0)) hpos hi
    have hlt : i.natAbs < 10 ^ 17 := by omega
    obtain ⟨d, k, hshortest, hvalue⟩ := @Binary64.Counts.shortest_eq _ _ .even hcounts hpos hlt
    have hd : 0 < d := by
      rcases Nat.eq_zero_or_pos d with rfl | hd
      · omega
      · exact hd
    have hdigits : digitsOf i.natAbs = digitsOf d ++ List.replicate k '0' := by
      rw [← hvalue, digitsOf_mul_pow hd]
    have hlength : (digitsOf d).length + k ≤ 17 := by
      have := (length_digitsOf_le_iff (by decide)).mpr hlt
      rwa [hdigits, List.length_append, List.length_replicate] at this
    have hone : 0 < (digitsOf d).length := Nat.length_toDigits_pos
    have hnonzero : x.isZero = false := by
      obtain ⟨j, -, hm⟩ := hcounts
      have : 0 < i.natAbs * 2 ^ j := Nat.mul_pos hpos (Nat.pow_pos (by decide))
      rw [Binary64.isZero, hm]
      exact beq_false_of_ne (by omega)
    have hdatum : datum? (.number (.int i)) = some (.number x) := by
      rw [datum?, Binary64.ofInt?, hx]
      rfl
    rw [runText, hdatum]
    show String.ofList (numberText x) = _
    unfold numberText
    rw [hnonzero, hshortest]
    dsimp only
    rw [if_neg (by decide), if_pos (by omega), Binary64.positional, if_pos (Int.natCast_nonneg k),
      Int.toNat_natCast, List.append_nil, ← hdigits, Binary64.signText, hnegative, intText]
    by_cases hi : i < 0
    · rw [decide_eq_true hi, if_pos rfl, if_pos hi]
      rfl
    · rw [decide_eq_false hi, if_neg (by decide), if_neg hi]
      rfl

/-- An entry that an earlier one takes the place of: they have the same text. -/
def Shadowed (text : Param → String) (earlier : List Param) (p : Param) : Prop :=
  ∃ q ∈ earlier, text q = text p

/-- Two texts of the entries find the same entries just if an entry on which they differ is found by
neither of them. -/
theorem find?_eq_iff {f g : Param → String} {params : List Param}
    (hdistinct : (params.map (·.key)).Nodup) :
    (∀ wanted, (params.find? (f · == wanted)).map (·.key) =
        (params.find? (g · == wanted)).map (·.key)) ↔
      ∀ earlier p later, params = earlier ++ p :: later → f p ≠ g p →
        Shadowed f earlier p ∧ Shadowed g earlier p := by
  constructor
  · intro hsame earlier p later hsplit hne
    -- The first entry with a text of `p` would be `p`, and it would be found by the other text as well.
    have hfirst {a b : Param → String}
        (hab : ∀ wanted, (params.find? (a · == wanted)).map (·.key) =
          (params.find? (b · == wanted)).map (·.key)) (hdiffer : a p ≠ b p) : Shadowed a earlier p := by
      by_contra hnone
      have hfind : params.find? (a · == a p) = some p := by
        refine List.find?_eq_some_iff_append.mpr ⟨beq_self_eq_true _, earlier, later, hsplit, ?_⟩
        intro q hq
        rw [Bool.not_eq_true', beq_eq_false_iff_ne]
        exact fun h => hnone ⟨q, hq, h⟩
      have hother := hab (a p)
      rw [hfind, Option.map_some] at hother
      obtain ⟨q, hq, hkey⟩ := Option.map_eq_some_iff.mp hother.symm
      have hp : p ∈ params := by rw [hsplit]; simp
      obtain rfl : q = p := List.inj_on_of_nodup_map hdistinct (List.mem_of_find?_eq_some hq) hp hkey
      have hb : (b q == a q) = true := @List.find?_some _ (b · == a q) q params hq
      exact hdiffer (beq_iff_eq.mp hb).symm
    exact ⟨hfirst hsame hne, hfirst (fun w => (hsame w).symm) (Ne.symm hne)⟩
  · intro hshadow wanted
    refine congrArg (Option.map Param.key) ?_
    clear hdistinct
    induction params using List.reverseRecOn with
    | nil => rfl
    | append_singleton params p ih =>
        have ih := ih fun earlier q later hsplit =>
          hshadow earlier q (later ++ [p]) (by rw [hsplit]; simp)
        rw [List.find?_append, List.find?_append, ← ih]
        cases hfound : params.find? (f · == wanted) with
        | some q => rfl
        | none =>
            have hnone : ∀ q ∈ params, f q ≠ wanted ∧ g q ≠ wanted := by
              intro q hq
              exact ⟨fun h => List.find?_eq_none.mp hfound q hq (beq_iff_eq.mpr h),
                fun h => List.find?_eq_none.mp (ih.symm.trans hfound) q hq (beq_iff_eq.mpr h)⟩
            have hlast : (f p == wanted) = (g p == wanted) := by
              by_cases heq : f p = g p
              · rw [heq]
              · obtain ⟨⟨q, hq, hf⟩, r, hr, hg⟩ := hshadow params p [] rfl heq
                rw [beq_false_of_ne (hf ▸ (hnone q hq).1), beq_false_of_ne (hg ▸ (hnone r hr).2)]
            rw [List.find?_singleton, List.find?_singleton, hlast]

theorem keyFor?_ofParams (params : List Param) (wanted : String) :
    (EnumTable.ofParams params).keyFor? wanted =
      (params.find? fun p => p.value.lookupText == wanted).map (·.key) := by
  unfold EnumTable.ofParams EnumTable.keyFor?
  rw [List.find?_map, Option.map_map]
  rfl

/-- Except for large integers, the text of a value is the one of the table. -/
theorem runText_eq {v : ParamValue} (hv : isListed v = true)
    (hsmall : ∀ i, v = .number (.int i) → i.natAbs < 2 ^ 53) : runText v = v.lookupText := by
  cases v with
  | reference _ => cases hv
  | text s => rfl
  | number n =>
      cases n with
      | float _ => cases hv
      | int i => exact runText_int (hsmall i rfl)

/-- An enumeration is emitted exactly if all its methods have plans, and its text is then the one that
the specification says. -/
theorem emit_text {e : Emitter} (he : Emitter.shipped = .ok e) {s : ClassSpec} (hk : s.kind = .enum) :
    ((∃ text, e.emit s = .ok text) ↔ ∀ m ∈ s.methods, ∃ plan, m.plan = .ok plan) ∧
      ∀ text, e.emit s = .ok text → text = ClassText.enumeration s := by
  obtain ⟨e', he', ht, hn⟩ := Shipped.shipped_standard
  obtain rfl : e = e' := Except.ok.inj (he.symm.trans he')
  have hc : e.chainFor s.kind = .ok ⟨"base_template", ["enum_template"]⟩ := by
    rw [Emitter.chainFor, hn, hk]
    exact Shipped.chainFor_enum ht
  obtain ⟨hiff, htext⟩ := Shipped.emit_eq (fun _ => ClassText.enumeration s) hc
    (Shipped.resolve_enum ht) fun _ _ => Shipped.render_enumeration hk _
  refine ⟨hiff, ?_⟩
  intro text hemit
  obtain ⟨plans, hplans⟩ := mapM_ok_iff.mpr (hiff.mp ⟨text, hemit⟩)
  exact Except.ok.inj (hemit.symm.trans (htext plans hplans))

/-- The source of an enumeration of integers and texts has a lookup that goes through the keys of its map
in the order of the entries, and finds the first one whose value has the wanted text when the source is
run. It finds what the table finds just if each entry on whose text the two differ is found by neither of
them, as it is if the integers are below `2 ^ 53`. -/
theorem lookup_of_emitted (s : ClassSpec) (hk : s.kind = .enum) (hs : AllListed s.params) :
    ∃ e, Emitter.shipped = .ok e ∧
      ((∃ text, e.emit s = .ok text) ↔ ∀ m ∈ s.methods, ∃ plan, m.plan = .ok plan) ∧
      ∀ text, e.emit s = .ok text → ∃ before map,
        text = before ++ ClassText.valueForString s.name ++ "\x7d\n" ++ ClassText.map s ++
          ClassText.exportLine s ∧
        read? s.name (ClassText.map s).toList = some map ∧
        map.map (·.1) = (EnumTable.ofParams s.params).keys ∧
        (∀ wanted, valueForString? map wanted =
          (s.params.find? fun p => runText p.value == wanted).map (·.key)) ∧
        ((∀ wanted, valueForString? map wanted = (EnumTable.ofParams s.params).keyFor? wanted) ↔
          ∀ earlier p later, s.params = earlier ++ p :: later → runText p.value ≠ p.value.lookupText →
            Shadowed (runText ·.value) earlier p ∧ Shadowed (·.value.lookupText) earlier p) ∧
        ((∀ p ∈ s.params, ∀ i, p.value = .number (.int i) → i.natAbs < 2 ^ 53) →
          ∀ wanted, valueForString? map wanted = (EnumTable.ofParams s.params).keyFor? wanted) := by
  obtain ⟨e, he, -, -⟩ := Shipped.shipped_standard
  obtain ⟨hiff, htext⟩ := emit_text he hk
  refine ⟨e, he, hiff, ?_⟩
  intro text hemit
  have hlookup := valueForString?_listed hs.values
  have hagree := @find?_eq_iff (runText ·.value) (·.value.lookupText) _ hs.distinct
  simp only [← hlookup, ← keyFor?_ofParams] at hagree
  refine ⟨_, listed s.params, htext text hemit, read?_map hs, ?_, hlookup, hagree, ?_⟩
  · rw [keys_listed hs.values]
    simp [EnumTable.ofParams, EnumTable.keys]
  · intro hsmall
    refine hagree.mpr fun earlier p later hsplit hne => absurd ?_ hne
    have hp : p ∈ s.params := by rw [hsplit]; simp
    exact runText_eq (hs.values p hp) (hsmall p hp)

/-- An enumeration of integers and of texts, one of which is the text of a number in front of it. -/
def dial : ClassSpec :=
  ⟨"Dial", .enum, "", "Enum", [],
    [⟨"LOW", .number (.int (-70)), []⟩, ⟨"HIGH", .number (.int 2), []⟩, ⟨"TWO", .text "2", []⟩,
      ⟨"NOTE", .text "it's \\", []⟩], [], [], none⟩

theorem allListed_dial : AllListed dial.params := by
  refine ⟨by decide, ?_, ?_⟩
  all_goals
    simp only [dial, List.forall_mem_cons, List.not_mem_nil, IsEmpty.forall_iff, implies_true, and_true]
    exact ⟨rfl, rfl, rfl, rfl⟩

theorem lookup_of_emitted_dial :
    dial.kind = .enum ∧ AllListed dial.params ∧ ∃ e text map, Emitter.shipped = .ok e ∧
      e.emit dial = .ok text ∧ read? "Dial" (ClassText.map dial).toList = some map ∧
      map.map (·.1) = ["LOW", "HIGH", "TWO", "NOTE"] ∧ valueForString? map "-70" = some "LOW" ∧
      valueForString? map "2" = some "HIGH" ∧ valueForString? map "it's \\" = some "NOTE" ∧
      valueForString? map "3" = none := by
  have hk : dial.kind = .enum := rfl
  obtain ⟨e, he, hiff, hread⟩ := lookup_of_emitted dial hk allListed_dial
  obtain ⟨text, htext⟩ := hiff.mpr fun m hm => absurd hm List.not_mem_nil
  obtain ⟨_, map, -, hmap, hkeys, -, -, hsmall⟩ := hread text htext
  have htable := hsmall (by
    simp only [dial, List.forall_mem_cons]
    refine ⟨?_, ?_, ?_, ?_, ?_⟩
    all_goals simp)
  refine ⟨hk, allListed_dial, e, text, map, he, htext, hmap, hkeys, ?_, ?_, ?_, ?_⟩
  all_goals
    rw [htable]
    decide +kernel

/-- An enumeration of the largest integer of 64 bits. -/
def summit : ClassSpec :=
  ⟨"Summit", .enum, "", "Enum", [], [⟨"A", .number (.int 9223372036854775807), []⟩], [], [], none⟩

/-- The largest integer is read as the number above it, whose text is another one than that of the table:
the source finds the one text, and the table finds the other one. -/
theorem lookup_misses_large :
    summit.kind = .enum ∧ AllListed summit.params ∧ ∃ e text before map, Emitter.shipped = .ok e ∧
      e.emit summit = .ok text ∧
      text = before ++ ClassText.valueForString "Summit" ++ "\x7d\n" ++ ClassText.map summit ++
        ClassText.exportLine summit ∧
      read? "Summit" (ClassText.map summit).toList = some map ∧
      valueForString? map "9223372036854775807" = none ∧
      (EnumTable.ofParams summit.params).keyFor? "9223372036854775807" = some "A" ∧
      valueForString? map "9223372036854776000" = some "A" ∧
      (EnumTable.ofParams summit.params).keyFor? "9223372036854776000" = none := by
  have hlisted : AllListed summit.params := by
    refine ⟨by decide, ?_, ?_⟩
    all_goals
      intro p hp
      rw [List.mem_singleton.mp hp]
      rfl
  have hrun : runText (.number (.int 9223372036854775807)) = "9223372036854776000" := by decide +kernel
  obtain ⟨e, he, -, -⟩ := Shipped.shipped_standard
  obtain ⟨hiff, htext⟩ := @emit_text e he summit rfl
  obtain ⟨text, hemit⟩ := hiff.mpr fun m hm => absurd hm List.not_mem_nil
  refine ⟨rfl, hlisted, e, text, _, listed summit.params, he, hemit, htext text hemit,
    @read?_map summit hlisted, ?_, ?_, ?_, ?_⟩
  · rw [valueForString?_listed hlisted.values, summit, List.find?_singleton, hrun]
    rfl
  · rfl
  · rw [valueForString?_listed hlisted.values, summit, List.find?_singleton, hrun]
    rfl
  · rfl

end ClassScribe.EmittedMap
