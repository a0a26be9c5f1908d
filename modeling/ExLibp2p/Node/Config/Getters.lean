import ExLibp2p.Node.Config.Fields
import Mathlib.Data.Set.List

namespace ExLibp2p.Node

open ExLibp2p.Data
open ExLibp2p.Erlang
open ExLibp2p.Native

section Getters

variable {rustler : Rustler} {map : TermMap} {key : String} {term : Term}

theorem getOr_exact {Value : Type} {decode : Term → Option Value}
    {encode : Value → Term}
    (inverse : ∀ value, decode (encode value) = some value)
    (found : map.lookup key = some term) (default : Value) :
    term = encode (getOr map key decode default) ↔
      ∃ value, term = encode value := by
  constructor
  · intro same
    exact ⟨_, same⟩
  · intro fits
    obtain ⟨value, rfl⟩ := fits
    rw [getOr, found, Option.bind_some, inverse value, Option.getD_some]

theorem decode_text (term : Term) (content : String) :
    Decode.text term = some content ↔ term = .text content := by
  cases term with
  | binary bytes =>
      rw [Decode.text, Decode.binary, Option.bind_some, utf8?_eq_some, Term.text,
        Term.binary.injEq]
  | _ => simp [Decode.text, Decode.binary, Term.text]

theorem decode_bool (term : Term) (on : Bool) :
    Decode.bool term = some on ↔ term = .atom (if on then "true" else "false") := by
  constructor
  · intro decoded
    unfold Decode.bool at decoded
    split at decoded
    · cases decoded
      rfl
    · cases decoded
      rfl
    · cases decoded
  · intro same
    subst same
    cases on with
    | true => rfl
    | false => rfl

section Words

variable {Word : Type} {bound : Int} {ofNat : Nat → Word} {toNat : Word → Nat}

theorem word_iff (inverse : ∀ word, ofNat (toNat word) = word)
    (exact : ∀ number : Nat, number ≤ bound → toNat (ofNat number) = number)
    (fits : ∀ word, toNat word ≤ bound) (number : Int) (word : Word) :
    (0 ≤ number ∧ number ≤ bound) ∧ ofNat number.toNat = word ↔
      number = toNat word := by
  constructor
  · rintro ⟨⟨positive, small⟩, rfl⟩
    have natural : (number.toNat : Int) = number := Int.toNat_of_nonneg positive
    rw [exact number.toNat (natural.trans_le small), natural]
  · intro same
    have small := fits word
    refine ⟨by omega, ?_⟩
    rw [same, Int.toNat_natCast, inverse]

theorem exists_word_iff (inverse : ∀ word, ofNat (toNat word) = word)
    (exact : ∀ number : Nat, number ≤ bound → toNat (ofNat number) = number)
    (fits : ∀ word, toNat word ≤ bound) (term : Term) :
    (∃ word, term = .integer (toNat word)) ↔
      ∃ number, term = .integer number ∧ 0 ≤ number ∧ number ≤ bound := by
  constructor
  · intro found
    obtain ⟨word, rfl⟩ := found
    exact ⟨toNat word, rfl, ((word_iff inverse exact fits _ word).mpr rfl).1⟩
  · intro found
    obtain ⟨number, rfl, range⟩ := found
    exact ⟨ofNat number.toNat,
      congrArg Term.integer ((word_iff inverse exact fits _ _).mp ⟨range, rfl⟩)⟩

end Words

theorem u32_exact (number : Nat) (small : (number : Int) ≤ 0xffffffff) :
    (UInt32.ofNat number).toNat = number :=
  UInt32.toNat_ofNat_of_lt' (Nat.lt_succ_of_le (Int.ofNat_le.mp small))

theorem u32_fits (word : UInt32) : (word.toNat : Int) ≤ 0xffffffff :=
  Int.ofNat_le.mpr (Nat.le_of_lt_succ word.toNat_lt)

theorem u64_exact (number : Nat) (small : (number : Int) ≤ 0xffffffffffffffff) :
    (UInt64.ofNat number).toNat = number :=
  UInt64.toNat_ofNat_of_lt' (Nat.lt_succ_of_le (Int.ofNat_le.mp small))

theorem u64_fits (word : UInt64) : (word.toNat : Int) ≤ 0xffffffffffffffff :=
  Int.ofNat_le.mpr (Nat.le_of_lt_succ word.toNat_lt)

theorem decode_u32 (term : Term) (value : UInt32) :
    Decode.u32 term = some value ↔ term = .integer value.toNat := by
  cases term with
  | integer number =>
      simp only [Decode.u32, Option.ite_none_right_eq_some, Option.some.injEq,
        Term.integer.injEq]
      exact word_iff (fun _ => UInt32.ofNat_toNat) u32_exact u32_fits _ _
  | _ => simp [Decode.u32]

theorem decode_u64 (term : Term) (value : UInt64) :
    Decode.u64 term = some value ↔ term = .integer value.toNat := by
  cases term with
  | integer number =>
      simp only [Decode.u64, Option.ite_none_right_eq_some, Option.some.injEq,
        Term.integer.injEq]
      exact word_iff (fun _ => UInt64.ofNat_toNat) u64_exact u64_fits _ _
  | _ => simp [Decode.u64]

theorem text_injective {first second : String}
    (same : Term.text first = .text second) : first = second :=
  utf8_injective (Term.binary.inj same)

theorem collected_cons {first : String} {tail : Term}
    {list : Option (List String)} :
    (do return (← Decode.collectTexts tail).map (first :: ·) :
        Except Panic (Option (List String))) = .ok list ↔
      ∃ rest, Decode.collectTexts tail = .ok rest ∧
        list = rest.map (first :: ·) := by
  rw [bind_eq_ok]
  refine exists_congr fun rest => and_congr_right fun collected => ?_
  constructor
  · intro same
    cases same
    rfl
  · intro same
    subst same
    rfl

theorem collectTexts_some (term : Term) (list : List String) :
    Decode.collectTexts term = .ok (some list) ↔
      term = .list (list.map .text) := by
  fun_induction Decode.collectTexts term generalizing list with
  | case1 =>
      cases list with
      | nil => exact iff_of_true rfl rfl
      | cons content rest => simp [Term.list, pure, Except.pure]
  | case2 head tail first isText induction =>
      obtain rfl := (decode_text head first).mp isText
      rw [collected_cons]
      constructor
      · intro found
        obtain ⟨collected, isTail, same⟩ := found
        obtain ⟨rest, rfl, rfl⟩ := Option.map_eq_some_iff.mp same.symm
        rw [(induction rest).mp isTail]
        rfl
      · intro same
        cases list with
        | nil => cases same
        | cons content rest =>
            obtain ⟨isHead, isTail⟩ := Term.cons.inj same
            obtain rfl := text_injective isHead
            exact ⟨some rest, (induction rest).mpr isTail, rfl⟩
  | case3 head tail notText =>
      constructor
      · intro impossible
        cases impossible
      · intro same
        cases list with
        | nil => cases same
        | cons content rest =>
            obtain ⟨isHead, -⟩ := Term.cons.inj same
            rw [(decode_text head content).mpr isHead] at notText
            cases notText
  | case4 term notNil notCons =>
      constructor
      · intro impossible
        cases impossible
      · intro same
        cases list with
        | nil => exact (notNil same).elim
        | cons content rest => exact (notCons _ _ same).elim

theorem collectTexts_none (term : Term) :
    Decode.collectTexts term = .ok none ↔ HasOther term := by
  fun_induction Decode.collectTexts term with
  | case1 => simp [HasOther, pure, Except.pure]
  | case2 head tail first isText induction =>
      rw [collected_cons, HasOther, ← induction]
      constructor
      · intro found
        obtain ⟨collected, isTail, same⟩ := found
        rw [Option.map_eq_none_iff.mp same.symm] at isTail
        exact .inr isTail
      · intro either
        rcases either with notText | isTail
        · exact (notText first ((decode_text head first).mp isText)).elim
        · exact ⟨none, isTail, rfl⟩
  | case3 head tail notText =>
      refine iff_of_true rfl (.inl ?_)
      intro content same
      rw [(decode_text head content).mpr same] at notText
      cases notText
  | case4 term notNil notCons =>
      apply iff_of_false
      · intro impossible
        cases impossible
      · rw [HasOther]
        · exact not_false
        · exact notCons

theorem decode_texts (term : Term) (list : List String) :
    Decode.texts term = .ok (some list) ↔
      term = .list (list.map .text) := by
  rw [← collectTexts_some, Decode.texts]
  split
  · exact Iff.rfl
  · rename_i noList
    apply iff_of_false
    · intro impossible
      cases impossible
    · intro collected
      rw [collectTexts_some] at collected
      subst collected
      cases list with
      | nil => exact noList rfl
      | cons content rest => exact noList rfl

theorem decode_texts_none (term : Term) :
    Decode.texts term = .ok none ↔ NotTexts term := by
  rw [Decode.texts, NotTexts]
  split
  · rename_i isList
    rw [collectTexts_none, isList]
    simp
  · rename_i noList
    exact iff_of_true rfl (.inl (Bool.eq_false_of_not_eq_true noList))

theorem getBool_exact (found : map.lookup key = some term) (default : Bool) :
    (Value.flag (getBool map key default)).Represents term ↔
      Kind.flag.Fits term := by
  refine (getOr_exact (fun on => (decode_bool _ on).mpr rfl) found
    default).trans ?_
  simp [Kind.Fits, or_comm]

theorem getString_exact (found : map.lookup key = some term)
    (default : String) :
    (Value.text (getString map key default)).Represents term ↔
      Kind.text.Fits term :=
  getOr_exact (fun content => (decode_text _ content).mpr rfl) found default

theorem getF64_exact (found : map.lookup key = some term) (default : UInt64) :
    (Value.float (getF64 rustler map key default)).Represents term ↔
      Kind.float.Fits term := by
  have inverse : ∀ value, Decode.f64 rustler (.float value) = some value :=
    fun _ => rfl
  exact getOr_exact inverse found default

theorem getU32_exact (found : map.lookup key = some term) (default : UInt32) :
    (Value.number (getU32 map key default).toNat).Represents term ↔
      Kind.u32.Fits term :=
  (getOr_exact (fun word => (decode_u32 _ word).mpr rfl) found default).trans
    (exists_word_iff (fun _ => UInt32.ofNat_toNat) u32_exact u32_fits term)

theorem getU64_exact (found : map.lookup key = some term) (default : UInt64) :
    (Value.number (getU64 map key default).toNat).Represents term ↔
      Kind.u64.Fits term :=
  (getOr_exact (fun word => (decode_u64 _ word).mpr rfl) found default).trans
    (exists_word_iff (fun _ => UInt64.ofNat_toNat) u64_exact u64_fits term)

theorem getUsize_exact (found : map.lookup key = some term) (default : UInt64) :
    (Value.number (getUsize map key default).toNat).Represents term ↔
      Kind.u64.Fits term :=
  getU64_exact found default

theorem getBinary_exact (found : map.lookup key = some term) :
    (Value.keypair (getBinary map key)).Represents term ↔
      term = .atom "nil" ∨ Kind.keypair.Fits term := by
  rw [getBinary, found, Option.bind_some]
  cases term with
  | binary bytes => simp [isAtom, Decode.binary, Value.Represents, Kind.Fits]
  | atom name => simp [isAtom, Value.Represents, Kind.Fits]
  | _ => simp [isAtom, Decode.binary, Value.Represents, Kind.Fits]

theorem getStringList_eq_ok (found : map.lookup key = some term)
    {list : List String} :
    getStringList map key = .ok list ↔ term = .list (list.map .text) := by
  rw [← decode_texts, getStringList, found]
  rcases decoded : Decode.texts term with panic | none | other
  · simp [decoded]
  · simp [decoded]
  · simp [decoded]

theorem getStringList_message (found : map.lookup key = some term) :
    (∃ text, getStringList map key = .error (.message text)) ↔
      NotTexts term := by
  rw [← decode_texts_none, getStringList, found]
  rcases decoded : Decode.texts term with panic | none | other
  · simp [decoded]
  · simp [decoded]
  · simp [decoded]

end Getters

section Structs

variable {rustler : Rustler} {chars : Term → Except Exception Bytes}

def fieldPair (field : String × UInt64) : Term × Term :=
  (.atom field.1, .float field.2)

theorem fieldPair_injective : Function.Injective fieldPair := by
  intro first second same
  obtain ⟨names, bits⟩ := Prod.mk.inj same
  exact Prod.ext (Term.atom.inj names) (Term.float.inj bits)

theorem keyText_atom {name : String} (named : name ≠ "nil") :
    Config.keyText chars (.atom name) = .ok (utf8 name) := by
  unfold Config.keyText
  split
  · rename_i same
    cases same
    exact absurd rfl named
  · rename_i same
    cases same
    rfl
  · rename_i different
    exact absurd rfl (different name)

theorem isStructKey_atom {name : String} :
    Config.isStructKey (.atom name) = true ↔ name = "__struct__" := by
  unfold Config.isStructKey
  split
  · rename_i same
    cases same
    simp
  · rename_i different
    simp only [Bool.false_eq_true, false_iff]
    intro same
    exact different (congrArg Term.atom same)

theorem stringifyPairs_fields {fields : List (String × UInt64)}
    (named : ∀ field ∈ fields, field.1 ≠ "nil")
    (distinct : (fields.map Prod.fst).Nodup) :
    Config.stringifyPairs chars (fields.map fieldPair) =
      .ok (fields.map fun field => (utf8 field.1, .float field.2)).reverse := by
  rw [Config.stringifyPairs, ← List.append_nil (List.reverse _)]
  have fresh : ∀ field ∈ fields,
      ∀ pair ∈ ([] : List (Bytes × Term)), pair.1 ≠ utf8 field.1 := by simp
  generalize ([] : List (Bytes × Term)) = acc at fresh ⊢
  induction fields generalizing acc with
  | nil => rfl
  | cons field rest induction =>
      obtain ⟨headNamed, restNamed⟩ := List.forall_mem_cons.mp named
      obtain ⟨headFresh, restFresh⟩ := List.forall_mem_cons.mp fresh
      obtain ⟨once, restDistinct⟩ := List.nodup_cons.mp distinct
      have put : Config.putText acc (utf8 field.1) (.float field.2) =
          (utf8 field.1, .float field.2) :: acc := by
        rw [Config.putText, List.filter_eq_self.mpr]
        intro pair member
        exact decide_eq_true (headFresh pair member)
      rw [List.map_cons, List.foldlM_cons, fieldPair, keyText_atom headNamed]
      change List.foldlM _ (Config.putText acc (utf8 field.1) (.float field.2))
        (rest.map fieldPair) = _
      rw [put, induction restNamed restDistinct]
      · simp
      · intro other member
        rw [List.forall_mem_cons]
        refine ⟨?_, restFresh other member⟩
        intro same
        exact once (utf8_injective same ▸ List.mem_map_of_mem member)

/-- Names that neither the struct itself nor `to_string/1` treats apart. -/
structure PlainNames (fields : List (String × UInt64)) : Prop where
  named : ∀ field ∈ fields, field.1 ≠ "nil"
  unreserved : ∀ field ∈ fields, field.1 ≠ "__struct__"
  distinct : (fields.map Prod.fst).Nodup

theorem PlainNames.perm {fields others : List (String × UInt64)}
    (plain : PlainNames fields) (same : others.Perm fields) :
    PlainNames others where
  named := fun field member => plain.named field (same.mem_iff.mp member)
  unreserved := fun field member => plain.unreserved field (same.mem_iff.mp member)
  distinct := (same.map Prod.fst).nodup_iff.mpr plain.distinct

theorem exists_map_of_perm {fields : List (String × UInt64)}
    {pairs : List (Term × Term)} (same : pairs.Perm (fields.map fieldPair)) :
    ∃ others : List (String × UInt64), others.Perm fields ∧
      pairs = others.map fieldPair := by
  have lifted : pairs ∈ Set.range (List.map fieldPair) := by
    rw [Set.range_list_map]
    intro pair member
    obtain ⟨field, -, rfl⟩ := List.mem_map.mp (same.mem_iff.mp member)
    exact ⟨field, rfl⟩
  obtain ⟨others, rfl⟩ := lifted
  exact ⟨others, (List.map_perm_map_iff fieldPair_injective).mp same, rfl⟩

section Struct

variable {name : String} {fields : List (String × UInt64)}
  {pairs : List (Term × Term)}

theorem fromStruct_of_perm (plain : PlainNames fields)
    (same : pairs.Perm ((.atom "__struct__", .atom name) ::
      fields.map fieldPair)) :
    ∃ others : List (String × UInt64), others.Perm fields ∧
      Config.fromStruct pairs = .ok (others.map fieldPair) := by
  have kept : ((fields.map fieldPair).filter
      fun pair => !Config.isStructKey pair.1) = fields.map fieldPair := by
    rw [List.filter_eq_self]
    intro pair member
    obtain ⟨field, isField, rfl⟩ := List.mem_map.mp member
    rw [Bool.not_eq_true', ← Bool.not_eq_true]
    intro reserved
    exact plain.unreserved field isField (isStructKey_atom.mp reserved)
  have filtered := same.filter fun pair => !Config.isStructKey pair.1
  rw [List.filter_cons_of_neg (by simp [Config.isStructKey]), kept] at filtered
  obtain ⟨others, othersPerm, equation⟩ := exists_map_of_perm filtered
  refine ⟨others, othersPerm, ?_⟩
  have found : ∃ key, pairs.find? (fun pair => Config.isStructKey pair.1) =
      some (key, .atom name) := by
    cases search : pairs.find? fun pair => Config.isStructKey pair.1 with
    | none =>
        have member := same.mem_iff.mpr List.mem_cons_self
        exact absurd rfl (List.find?_eq_none.mp search _ member)
    | some pair =>
        have reserved := List.find?_some search
        have member := same.mem_iff.mp (List.mem_of_find?_eq_some search)
        obtain rfl | listed := List.mem_cons.mp member
        · exact ⟨_, rfl⟩
        · obtain ⟨field, isField, rfl⟩ := List.mem_map.mp listed
          exact absurd (isStructKey_atom.mp reserved)
            (plain.unreserved field isField)
  obtain ⟨key, search⟩ := found
  rw [Config.fromStruct, search, ← equation]

theorem stringifyStruct_of_isStruct {term : Term} (plain : PlainNames fields)
    (isStruct : IsStruct name fields term) :
    ∃ others : List (String × UInt64), others.Perm fields ∧
      Config.stringifyStruct chars term =
        .ok (.map (others.map fun field =>
          (.text field.1, .float field.2))) := by
  obtain ⟨pairs, rfl, same⟩ := isStruct
  obtain ⟨others, othersPerm, converted⟩ := fromStruct_of_perm plain same
  have plainOthers := plain.perm othersPerm
  have isStruct : (pairs.any fun pair => Config.isStructKey pair.1) = true := by
    rw [List.any_eq_true]
    exact ⟨_, same.mem_iff.mpr List.mem_cons_self, rfl⟩
  refine ⟨others.reverse, (List.reverse_perm others).trans othersPerm, ?_⟩
  rw [Config.stringifyStruct, if_pos isStruct, converted]
  have texts : Config.stringifyPairs chars (others.map fieldPair) = .ok _ :=
    stringifyPairs_fields plainOthers.named plainOthers.distinct
  simp only [bind, Except.bind, pure, Except.pure, texts, List.map_map,
    ← List.map_reverse]
  rfl

theorem decode_hashMap (others : List (String × UInt64)) :
    Decode.hashMap (.map (others.map fun field =>
        (.text field.1, .float field.2))) =
      some (others.map fun field => (field.1, .float field.2)) := by
  rw [Decode.hashMap]
  induction others with
  | nil => rfl
  | cons field rest induction =>
      rw [List.map_cons, List.mapM_cons, (decode_text _ field.1).mpr rfl, induction]
      rfl

theorem getInner_of_isStruct {map : TermMap} {key : String} {term sent : Term}
    (plain : PlainNames fields) (isStruct : IsStruct name fields term)
    (stringified : Config.stringifyStruct chars term = .ok sent)
    (found : map.lookup key = some sent) :
    ∃ inner, getInner map key = some inner ∧
      ∀ field ∈ fields, ∀ default, getF64 rustler inner field.1 default = field.2 := by
  obtain ⟨others, same, equation⟩ :=
    stringifyStruct_of_isStruct plain isStruct
  rw [stringified] at equation
  obtain rfl := Except.ok.inj equation
  refine ⟨others.map fun field => (field.1, .float field.2), ?_, ?_⟩
  · rw [getInner, found]
    exact decode_hashMap others
  · intro field member default
    have distinct : ((others.map fun field : String × UInt64 =>
        (field.1, Term.float field.2)).map Prod.fst).Nodup := by
      rw [List.map_map]
      exact (plain.perm same).distinct
    have held := lookup_of_mem distinct
      (List.mem_map_of_mem (same.mem_iff.mpr member))
    rw [getF64, getOr, held]
    rfl

end Struct

theorem stringifyStruct_nil {sent : Term}
    (stringified : Config.stringifyStruct chars (.atom "nil") = .ok sent) :
    sent = .atom "nil" :=
  (Except.ok.inj stringified).symm

theorem getInner_of_nil {map : TermMap} {key : String} {sent : Term}
    (stringified : Config.stringifyStruct chars (.atom "nil") = .ok sent)
    (found : map.lookup key = some sent) : getInner map key = none := by
  rw [getInner, found, stringifyStruct_nil stringified]
  rfl

theorem peerScoreFields_plain (config : PeerScoreConfig) :
    PlainNames (peerScoreFields config) where
  named := by simp [peerScoreFields]
  unreserved := by simp [peerScoreFields]
  distinct := by simp [peerScoreFields]

theorem thresholdsFields_plain (config : ThresholdsConfig) :
    PlainNames (thresholdsFields config) where
  named := by simp [thresholdsFields]
  unreserved := by simp [thresholdsFields]
  distinct := by simp [thresholdsFields]

theorem getPeerScore_exact {map : TermMap} {term sent : Term}
    (stringified : Config.stringifyStruct chars term = .ok sent)
    (found : map.lookup "gossipsub_peer_score" = some sent) :
    (Value.peerScore (getPeerScore rustler map)).Represents term ↔
      term = .atom "nil" ∨ Kind.peerScore.Fits term := by
  constructor
  · intro represents
    cases score : getPeerScore rustler map with
    | none =>
        rw [score] at represents
        exact .inl represents
    | some config =>
        rw [score] at represents
        exact .inr ⟨config, represents⟩
  · intro accepted
    obtain rfl | ⟨config, isStruct⟩ := accepted
    · rw [getPeerScore, getInner_of_nil stringified found]
      rfl
    · obtain ⟨inner, same, fields⟩ := getInner_of_isStruct
        (peerScoreFields_plain config) isStruct stringified found
      simp only [peerScoreFields, List.forall_mem_cons] at fields
      obtain ⟨weight, threshold, penalty, decay, -⟩ := fields
      rw [getPeerScore, same, Option.map_some, weight, threshold, penalty, decay]
      exact isStruct

theorem getThresholds_exact {map : TermMap} {term sent : Term}
    (stringified : Config.stringifyStruct chars term = .ok sent)
    (found : map.lookup "gossipsub_thresholds" = some sent) :
    (Value.thresholds (getThresholds rustler map)).Represents term ↔
      term = .atom "nil" ∨ Kind.thresholds.Fits term := by
  constructor
  · intro represents
    cases thresholds : getThresholds rustler map with
    | none =>
        rw [thresholds] at represents
        exact .inl represents
    | some config =>
        rw [thresholds] at represents
        exact .inr ⟨config, represents⟩
  · intro accepted
    obtain rfl | ⟨config, isStruct⟩ := accepted
    · rw [getThresholds, getInner_of_nil stringified found]
      rfl
    · obtain ⟨inner, same, fields⟩ := getInner_of_isStruct
        (thresholdsFields_plain config) isStruct stringified found
      simp only [thresholdsFields, List.forall_mem_cons] at fields
      obtain ⟨gossip, publish, graylist, acceptPx, graft, -⟩ := fields
      rw [getThresholds, same, Option.map_some, gossip, publish, graylist,
        acceptPx, graft]
      exact isStruct

end Structs

end ExLibp2p.Node
