import ExLibp2p.Native.DhtState.RoundTrip
import ExLibp2p.Native.RoutingTable.History

namespace ExLibp2p.Native.RoutingTable

open ExLibp2p.Data
open ExLibp2p.Native.DhtState

/-! What a decoder makes of a snapshot in which a count of addresses was
truncated: it goes on to read addresses as identifiers, and does not find all
the pairs again. -/

theorem beBytes_two_append_inj {first second : Nat} {rest tail : Bytes}
    (firstBound : first < 2 ^ 16) (secondBound : second < 2 ^ 16)
    (equal : beBytes 2 first ++ rest = beBytes 2 second ++ tail) :
    first = second ∧ rest = tail := by
  obtain ⟨numbers, same⟩ := List.append_inj equal (by simp)
  have values := congrArg beValue numbers
  rw [beValue_beBytes, beValue_beBytes] at values
  refine ⟨?_, same⟩
  omega

theorem encodeAddress_append_inj {first second rest tail : Bytes}
    (firstBound : first.length < 2 ^ 16) (secondBound : second.length < 2 ^ 16)
    (equal : encodeAddress first ++ rest = encodeAddress second ++ tail) :
    first = second ∧ rest = tail := by
  have firstKept : asU16 first.length = first.length :=
    Nat.mod_eq_of_lt firstBound
  have secondKept : asU16 second.length = second.length :=
    Nat.mod_eq_of_lt secondBound
  simp only [encodeAddress, firstKept, secondKept, List.append_assoc] at equal
  obtain ⟨lengths, bodies⟩ :=
    beBytes_two_append_inj firstBound secondBound equal
  exact List.append_inj bodies lengths

theorem addresses_split {first second : List Bytes} {rest tail : Bytes}
    (firstBounds : ∀ address ∈ first, address.length < 2 ^ 16)
    (secondBounds : ∀ address ∈ second, address.length < 2 ^ 16)
    (fewer : first.length ≤ second.length)
    (equal : first.flatMap encodeAddress ++ rest =
      second.flatMap encodeAddress ++ tail) :
    ∃ later, second = first ++ later ∧
      rest = later.flatMap encodeAddress ++ tail := by
  induction first generalizing second with
  | nil => exact ⟨second, rfl, equal⟩
  | cons address first induction =>
      cases second with
      | nil => simp at fewer
      | cons other second =>
          simp only [List.flatMap_cons, List.append_assoc] at equal
          obtain ⟨same, remaining⟩ := encodeAddress_append_inj
            (firstBounds address List.mem_cons_self)
            (secondBounds other List.mem_cons_self) equal
          obtain ⟨later, split, suffix⟩ := induction
            (fun each member => firstBounds each (List.mem_cons_of_mem _ member))
            (fun each member =>
              secondBounds each (List.mem_cons_of_mem _ member))
            (Nat.le_of_succ_le_succ fewer) remaining
          refine ⟨later, ?_, suffix⟩
          rw [same, split]
          rfl

theorem encodeEntry_eq (entry : RoutingEntry) (rest : Bytes) :
    encodeEntry entry ++ rest =
      encodeAddress entry.peerId ++
        (beBytes 2 (asU16 entry.addresses.length) ++
          (entry.addresses.flatMap encodeAddress ++ rest)) := by
  simp only [encodeEntry, encodeAddress, List.append_assoc]

theorem entry_of_addresses {entry : RoutingEntry} {first second : Bytes}
    {rest tail : Bytes} (fits : Fits entry)
    (firstBound : first.length < 2 ^ 16) (secondBound : second.length < 2 ^ 16)
    (equal : encodeEntry entry ++ rest =
      encodeAddress first ++ (encodeAddress second ++ tail)) :
    entry.peerId = first ∧ entry.addresses.length = second.length ∧
      entry.addresses.flatMap encodeAddress ++ rest = second ++ tail := by
  rw [encodeEntry_eq] at equal
  obtain ⟨same, remaining⟩ := encodeAddress_append_inj fits.1 firstBound equal
  have kept : asU16 entry.addresses.length = entry.addresses.length :=
    Nat.mod_eq_of_lt fits.2.1
  have secondKept : asU16 second.length = second.length :=
    Nat.mod_eq_of_lt secondBound
  rw [encodeAddress, kept, secondKept, List.append_assoc] at remaining
  obtain ⟨lengths, bodies⟩ :=
    beBytes_two_append_inj fits.2.1 secondBound remaining
  exact ⟨same, lengths, bodies⟩

theorem storedPairs_cons (entry : RoutingEntry) (rest : List RoutingEntry) :
    storedPairs (entry :: rest) =
      (entry.addresses.map fun address => (entry.peerId, address)) ++
        storedPairs rest :=
  List.flatMap_cons

/-- An entry whose lengths fit, whatever the number of its addresses. -/
structure Plain (entry : RoutingEntry) : Prop where
  peerId : entry.peerId.length < 2 ^ 16
  nonempty : entry.peerId ≠ []
  addresses : ∀ address ∈ entry.addresses, address.length < 2 ^ 16

theorem first_entry {head entry : RoutingEntry} {rest tail : Bytes}
    (fits : Fits head) (plain : Plain entry)
    (equal : encodeEntry head ++ rest = encodeEntry entry ++ tail) :
    head.peerId = entry.peerId ∧ ∃ later,
      entry.addresses = head.addresses ++ later ∧
      rest = later.flatMap encodeAddress ++ tail := by
  rw [encodeEntry_eq, encodeEntry_eq] at equal
  obtain ⟨samePeer, counted⟩ :=
    encodeAddress_append_inj fits.1 plain.peerId equal
  have kept : asU16 head.addresses.length = head.addresses.length :=
    Nat.mod_eq_of_lt fits.2.1
  have bound : asU16 entry.addresses.length < 2 ^ 16 :=
    Nat.mod_lt _ (Nat.two_pow_pos 16)
  rw [kept] at counted
  obtain ⟨count, addresses⟩ := beBytes_two_append_inj fits.2.1 bound counted
  have fewer : head.addresses.length ≤ entry.addresses.length := by
    rw [count]
    exact Nat.mod_le _ _
  exact ⟨samePeer, addresses_split fits.2.2 plain.addresses fewer addresses⟩

theorem last_address {head : RoutingEntry} {address rest : Bytes}
    {entries : List RoutingEntry} (fits : Fits head)
    (bound : address.length < 2 ^ 16) (plain : ∀ entry ∈ entries, Plain entry)
    (equal : encodeEntry head ++ rest =
      encodeAddress address ++ entries.flatMap encodeEntry) :
    head.peerId = address ∧ head.addresses ≠ [] := by
  cases entries with
  | nil =>
      rw [encodeEntry_eq] at equal
      obtain ⟨-, remaining⟩ := encodeAddress_append_inj fits.1 bound equal
      have lengths := congrArg List.length remaining
      simp at lengths
  | cons entry entries =>
      have entryPlain := plain entry List.mem_cons_self
      rw [List.flatMap_cons, encodeEntry_eq entry] at equal
      obtain ⟨same, count, -⟩ :=
        entry_of_addresses fits bound entryPlain.peerId equal
      refine ⟨same, ?_⟩
      intro empty
      rw [empty] at count
      exact entryPlain.nonempty (List.eq_nil_of_length_eq_zero count.symm)

theorem owner_of_storedPairs {head : RoutingEntry} {decoded : List RoutingEntry}
    {pair : Bytes × Bytes} {pairs : List (Bytes × Bytes)}
    (same : storedPairs (head :: decoded) = pair :: pairs) :
    (head.addresses = [] ∧ storedPairs decoded = pair :: pairs) ∨
      (head.addresses ≠ [] ∧ pair.1 = head.peerId) := by
  rw [storedPairs_cons] at same
  cases addresses : head.addresses with
  | nil =>
      rw [addresses] at same
      exact .inl ⟨rfl, same⟩
  | cons address others =>
      rw [addresses] at same
      cases same
      exact .inr ⟨List.cons_ne_nil _ _, rfl⟩

/-- What is read from leftover addresses on does not begin with a pair of the
identifier that they belong to: as long as addresses are left each entry takes
one of them for its identifier, and what follows are other identifiers. -/
theorem misread {decoded entries : List RoutingEntry} {leftover : List Bytes}
    {peerId address rest : Bytes} {pairs : List (Bytes × Bytes)}
    (fit : ∀ entry ∈ decoded, Fits entry)
    (plain : ∀ entry ∈ entries, Plain entry)
    (bounds : ∀ each ∈ leftover, each.length < 2 ^ 16)
    (apart : ∀ each ∈ leftover, each ≠ peerId)
    (others : ∀ entry ∈ entries, entry.peerId ≠ peerId ∧
      ∀ each ∈ entry.addresses, each ≠ peerId)
    (equal : decoded.flatMap encodeEntry ++ rest =
      leftover.flatMap encodeAddress ++ entries.flatMap encodeEntry) :
    storedPairs decoded ≠ (peerId, address) :: pairs := by
  intro same
  induction decoded generalizing leftover entries with
  | nil => cases same
  | cons head decoded induction =>
      obtain ⟨headFits, laterFit⟩ := List.forall_mem_cons.mp fit
      have found := owner_of_storedPairs same
      rw [List.flatMap_cons, List.append_assoc] at equal
      match leftover with
      | first :: second :: leftover =>
          simp only [List.mem_cons, forall_eq_or_imp] at bounds apart
          simp only [List.flatMap_cons, List.append_assoc] at equal
          obtain ⟨isFirst, count, remaining⟩ :=
            entry_of_addresses headFits bounds.1 bounds.2.1 equal
          rcases found with ⟨empty, later⟩ | ⟨-, owner⟩
          · rw [empty] at count remaining
            have secondEmpty : second = [] :=
              List.eq_nil_of_length_eq_zero count.symm
            subst secondEmpty
            exact induction laterFit plain bounds.2.2 apart.2.2 others
              remaining later
          · exact apart.1 (isFirst.symm.trans owner.symm)
      | [last] =>
          simp only [List.mem_singleton, forall_eq] at bounds apart
          rw [List.flatMap_singleton] at equal
          obtain ⟨isLast, nonempty⟩ := last_address headFits bounds plain equal
          rcases found with ⟨empty, -⟩ | ⟨-, owner⟩
          · exact nonempty empty
          · exact apart (isLast.symm.trans owner.symm)
      | [] =>
          cases entries with
          | nil =>
              have lengths := congrArg List.length equal
              have positive := length_encodeEntry head
              simp only [List.length_append, List.flatMap_nil, List.length_nil]
                at lengths
              omega
          | cons entry entries =>
              obtain ⟨entryPlain, laterPlain⟩ := List.forall_mem_cons.mp plain
              obtain ⟨entryOther, laterOthers⟩ := List.forall_mem_cons.mp others
              rw [List.flatMap_nil, List.nil_append, List.flatMap_cons] at equal
              obtain ⟨samePeer, later, split, remaining⟩ :=
                first_entry headFits entryPlain equal
              rcases found with ⟨empty, laterPairs⟩ | ⟨-, owner⟩
              · rw [empty, List.nil_append] at split
                subst split
                exact induction laterFit laterPlain entryPlain.addresses
                  entryOther.2 laterOthers remaining laterPairs
              · exact entryOther.1 (samePeer.symm.trans owner.symm)

/-- A snapshot from which the pairs are read as they were has no truncated
count. -/
theorem counts_fit {decoded entries : List RoutingEntry} {rest : Bytes}
    (fit : ∀ entry ∈ decoded, Fits entry)
    (plain : ∀ entry ∈ entries, Plain entry)
    (distinct : (entries.map RoutingEntry.peerId).Nodup)
    (apart : ∀ entry ∈ entries, ∀ other ∈ entries,
      ∀ address ∈ entry.addresses, address ≠ other.peerId)
    (equal : decoded.flatMap encodeEntry ++ rest =
      entries.flatMap encodeEntry)
    (same : storedPairs decoded = storedPairs entries) :
    ∀ entry ∈ entries, entry.addresses.length < 2 ^ 16 := by
  induction entries generalizing decoded with
  | nil => simp
  | cons entry entries induction =>
      cases decoded with
      | nil =>
          intro each member
          have empty := List.flatMap_eq_nil_iff.mp same.symm each member
          rw [List.map_eq_nil_iff] at empty
          rw [empty]
          exact Nat.two_pow_pos 16
      | cons head decoded =>
          obtain ⟨headFits, laterFit⟩ := List.forall_mem_cons.mp fit
          obtain ⟨entryPlain, laterPlain⟩ := List.forall_mem_cons.mp plain
          simp only [List.forall_mem_cons] at apart
          rw [List.map_cons, List.nodup_cons] at distinct
          rw [List.flatMap_cons, List.flatMap_cons, List.append_assoc] at equal
          obtain ⟨samePeer, later, split, remaining⟩ :=
            first_entry headFits entryPlain equal
          rw [storedPairs_cons, storedPairs_cons, samePeer, split,
            List.map_append, List.append_assoc] at same
          have laterPairs := List.append_cancel_left same
          cases later with
          | nil =>
              rw [List.append_nil] at split
              rw [List.forall_mem_cons]
              constructor
              · rw [split]
                exact headFits.2.1
              · exact induction laterFit laterPlain distinct.2
                  (fun each member => (apart.2 each member).2) remaining
                  laterPairs
          | cons first others =>
              have isPart : ∀ address ∈ first :: others,
                  address ∈ entry.addresses := by
                intro address member
                rw [split]
                exact List.mem_append_right _ member
              refine absurd laterPairs
                (misread laterFit laterPlain ?_ ?_ ?_ remaining)
              · intro address member
                exact entryPlain.addresses address (isPart address member)
              · intro address member
                exact apart.1.1 address (isPart address member)
              · intro each member
                refine ⟨?_, (apart.2 each member).1⟩
                intro samePeerId
                exact distinct.1 (List.mem_map.mpr ⟨each, member, samePeerId⟩)

end ExLibp2p.Native.RoutingTable
