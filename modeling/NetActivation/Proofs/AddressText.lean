import NetActivation.Address.Printer
import NetActivation.Address.Reader

set_option autoImplicit false

/-! # Addresses read back

Every address is read from its own text, in each of the spellings that a reader lets pass
(`read?_chars`). Octets and groups are read one by one, so that what is left to show is where the
text is cut. A double colon is written only for two or more groups of zero, so the first one in a
text is the one that stands for them, and each reader allows it. An address that stands for one of
32 bits keeps its octets, which are read as the last two groups. -/

namespace NetActivation.Address

/-! ## The characters of a text -/

theorem not_mem_toDigits {base n : Nat} {c : Char} (hone : 1 < base) (hbase : base ≤ 16)
    (hc : ∀ d < 16, Nat.digitChar d ≠ c) : c ∉ Nat.toDigits base n := by
  intro h
  obtain ⟨d, hd, rfl⟩ := Text.exists_digitChar_of_mem_toDigits hone h
  exact hc d (Nat.lt_of_lt_of_le hd hbase) rfl

section

variable {P : Char → Prop} (hdigit : ∀ d < 16, P (Nat.digitChar d))

include hdigit

theorem forall_mem_octetsText (hpoint : P '.') (os : List Nat) : ∀ c ∈ octetsText os, P c := by
  intro c hc
  rcases Text.mem_intercalate hc with rfl | ⟨f, hf, hc⟩
  · exact hpoint
  · obtain ⟨o, -, rfl⟩ := List.mem_map.1 hf
    obtain ⟨d, hd, rfl⟩ := Text.exists_digitChar_of_mem_toDigits (by decide) hc
    exact hdigit d (Nat.lt_trans hd (by decide))

theorem forall_mem_groupsText (hcolon : P ':') (gs : List Nat) : ∀ c ∈ groupsText gs, P c := by
  intro c hc
  rcases Text.mem_intercalate hc with rfl | ⟨f, hf, hc⟩
  · exact hcolon
  · obtain ⟨g, -, rfl⟩ := List.mem_map.1 hf
    obtain ⟨d, hd, rfl⟩ := Text.exists_digitChar_of_mem_toDigits (by decide) hc
    exact hdigit d hd

theorem forall_mem_shortGroupsText (hcolon : P ':') (gs : List Nat) :
    ∀ c ∈ shortGroupsText gs, P c := by
  have hgap : ∀ c ∈ "::".toList, P c := by simpa using hcolon
  simp only [shortGroupsText]
  split
  · intro c hc
    rcases List.mem_append.1 hc with hc | hc
    · rcases List.mem_append.1 hc with hc | hc
      · exact forall_mem_groupsText hdigit hcolon _ c hc
      · exact hgap c hc
    · exact forall_mem_groupsText hdigit hcolon _ c hc
  · exact forall_mem_groupsText hdigit hcolon _

/-- What holds of digits, colons and points holds of all characters in the text of an address. -/
theorem forall_mem_chars (hcolon : P ':') (hpoint : P '.') (a : Address) : ∀ c ∈ a.chars, P c := by
  have hfront : ∀ c ∈ "::ffff:".toList, P c := by
    have hf : P 'f' := hdigit 15 (by decide)
    simp [hcolon, hf]
  cases a with
  | v4 bits => exact forall_mem_octetsText hdigit hpoint _
  | v6 bits =>
      rw [chars]
      split
      · intro c hc
        rcases List.mem_append.1 hc with hc | hc
        · exact hfront c hc
        · exact forall_mem_octetsText hdigit hpoint _ c hc
      · exact forall_mem_shortGroupsText hdigit hcolon _

end

/-! ## Octets -/

theorem readOctet_toDigits (sp : Spelling) {o : Nat} (ho : o < octetSize) :
    readOctet sp (Nat.toDigits 10 o) = some o := by
  have hlength : (Nat.toDigits 10 o).length ≤ 3 := by
    rw [Nat.length_toDigits_le_iff (by decide) (by decide)]
    exact Nat.lt_trans ho (by decide)
  have hpadding : sp.paddedOctets = true ∨ (Nat.toDigits 10 o).length ≤ 1 ∨
      (Nat.toDigits 10 o).head? ≠ some '0' := by
    by_cases hzero : o = 0
    · subst hzero
      exact Or.inr (Or.inl (by decide))
    · exact Or.inr (Or.inr (Text.head?_toDigits_ne_zero (by decide) hzero))
  rw [readOctet, if_pos ⟨hlength, hpadding⟩, Text.number?_toDigits (by decide) (by decide)]
  exact Option.filter_some_pos (by simpa using ho)

theorem mapM_readOctet (sp : Spelling) {os : List Nat} (hos : ∀ o ∈ os, o < octetSize) :
    (os.map (Nat.toDigits 10)).mapM (readOctet sp) = some os := by
  induction os with
  | nil => rfl
  | cons o os ih =>
      have hrest := ih fun p hp => hos p (List.mem_cons_of_mem _ hp)
      rw [List.map_cons, List.mapM_cons, readOctet_toDigits sp (hos o List.mem_cons_self), hrest]
      rfl

theorem fields_octetsText {os : List Nat} (hne : os ≠ []) :
    Text.fields '.' (octetsText os) = os.map (Nat.toDigits 10) := by
  refine Text.fields_intercalate (by simpa using hne) fun f hf => ?_
  obtain ⟨o, -, rfl⟩ := List.mem_map.1 hf
  exact not_mem_toDigits (by decide) (by decide) (by decide)

theorem readOctets_octetsText (sp : Spelling) {os : List Nat} (hlength : os.length = 4)
    (hos : ∀ o ∈ os, o < octetSize) : readOctets sp (octetsText os) = some os := by
  have hne : os ≠ [] := by
    rintro rfl
    cases hlength
  simp only [readOctets, fields_octetsText hne, List.length_map, hlength, if_true,
    mapM_readOctet sp hos]

/-- A text without points is read as no octets. -/
theorem readOctets_eq_none (sp : Spelling) {s : List Char} (h : '.' ∉ s) :
    readOctets sp s = none := by
  rw [readOctets, Text.fields_of_not_mem h]
  rfl

/-! ## Groups -/

theorem readGroup_toDigits {g : Nat} (hg : g < groupSize) :
    readGroup (Nat.toDigits 16 g) = some g := by
  have hlength : (Nat.toDigits 16 g).length ≤ 4 :=
    (Nat.length_toDigits_le_iff (by decide) (by decide)).2 hg
  rw [readGroup, if_pos hlength, Text.number?_toDigits (by decide) (by decide)]

theorem readGroups_map (sp : Spelling) (quad : Bool) {gs : List Nat}
    (hgs : ∀ g ∈ gs, g < groupSize) :
    readGroups sp quad (gs.map (Nat.toDigits 16)) = some gs := by
  induction gs with
  | nil => rfl
  | cons g gs ih =>
      have hg := readGroup_toDigits (hgs g List.mem_cons_self)
      have hrest := ih fun p hp => hgs p (List.mem_cons_of_mem _ hp)
      cases gs with
      | nil => rw [List.map_singleton, readGroups, hg]
      | cons g' gs =>
          rw [List.map_cons] at hrest ⊢
          rw [List.map_cons, readGroups, hg, hrest]
          · rfl
          · exact nofun

theorem colon_not_mem_of_mem_map {gs : List Nat} {f : List Char}
    (hf : f ∈ gs.map (Nat.toDigits 16)) : f ≠ [] ∧ ':' ∉ f := by
  obtain ⟨g, -, rfl⟩ := List.mem_map.1 hf
  exact ⟨Nat.toDigits_ne_nil, not_mem_toDigits (by decide) (by decide) (by decide)⟩

theorem readSide_groupsText (sp : Spelling) (quad : Bool) {gs : List Nat}
    (hgs : ∀ g ∈ gs, g < groupSize) : readSide sp quad (groupsText gs) = some gs := by
  cases gs with
  | nil => rfl
  | cons g gs =>
      have hfields : Text.fields ':' (groupsText (g :: gs)) = (g :: gs).map (Nat.toDigits 16) :=
        Text.fields_intercalate (by simp) fun f hf => (colon_not_mem_of_mem_map hf).2
      have hne : groupsText (g :: gs) ≠ [] := by
        intro hnil
        rw [hnil] at hfields
        have hfirst := (List.cons.inj hfields).1
        exact Nat.toDigits_ne_nil hfirst.symm
      rw [readSide, if_neg (by simpa using hne), hfields, readGroups_map sp quad hgs]

/-! ## Double colons -/

theorem splitGap_cons {c : Char} {s : List Char} (h : c = ':' → s.head? ≠ some ':') :
    splitGap (c :: s) = (splitGap s).map fun (before, behind) => (c :: before, behind) := by
  refine splitGap.eq_3 c s fun rest hc hs => ?_
  subst hs
  exact h hc rfl

theorem splitGap_append_of_not_mem {f : List Char} (h : ':' ∉ f) (t : List Char) :
    splitGap (f ++ t) = (splitGap t).map fun (before, behind) => (f ++ before, behind) := by
  induction f with
  | nil => exact Option.map_id'.symm
  | cons c f ih =>
      simp only [List.mem_cons, not_or] at h
      rw [List.cons_append, splitGap_cons fun hc => absurd hc.symm h.1, ih h.2, Option.map_map]
      rfl

theorem head?_intercalate_append {f : List Char} (hf : f ≠ []) (l : List (List Char))
    (t : List Char) : ([':'].intercalate (f :: l) ++ t).head? = f.head? := by
  obtain ⟨c, f, rfl⟩ := List.exists_cons_of_ne_nil hf
  cases l with
  | nil => rw [List.intercalate_singleton, List.cons_append, List.head?_cons, List.head?_cons]
  | cons g l =>
      rw [List.intercalate_cons_cons, List.cons_append, List.cons_append, List.cons_append,
        List.head?_cons, List.head?_cons]

/-- Between fields that are not empty there are no double colons. -/
theorem splitGap_intercalate {l : List (List Char)} (h : ∀ f ∈ l, f ≠ [] ∧ ':' ∉ f)
    (t : List Char) :
    splitGap ([':'].intercalate l ++ t) =
      (splitGap t).map fun (before, behind) => ([':'].intercalate l ++ before, behind) := by
  induction l with
  | nil => exact Option.map_id'.symm
  | cons f l ih =>
      obtain ⟨-, hf⟩ := h f List.mem_cons_self
      cases l with
      | nil => rw [List.intercalate_singleton, splitGap_append_of_not_mem hf]
      | cons g l =>
          have hrest := ih fun f' hf' => h f' (List.mem_cons_of_mem _ hf')
          obtain ⟨hne, hg⟩ := h g (List.mem_cons_of_mem _ List.mem_cons_self)
          have hstart : ([':'].intercalate (g :: l) ++ t).head? ≠ some ':' := by
            rw [head?_intercalate_append hne]
            exact fun hhead => hg (List.mem_of_mem_head? hhead)
          rw [List.intercalate_cons_cons, List.append_assoc, List.append_assoc,
            List.singleton_append, splitGap_append_of_not_mem hf, splitGap_cons fun _ => hstart,
            hrest, Option.map_map, Option.map_map]
          simp [Function.comp_def]

theorem splitGap_groupsText (gs : List Nat) (t : List Char) :
    splitGap (groupsText gs ++ t) =
      (splitGap t).map fun (before, behind) => (groupsText gs ++ before, behind) :=
  splitGap_intercalate (fun _ hf => colon_not_mem_of_mem_map hf) t

/-! ## Runs of zeros -/

theorem replicate_zeroRun_append (l : List Nat) :
    List.replicate (zeroRun l) 0 ++ l.drop (zeroRun l) = l := by
  induction l with
  | nil => rfl
  | cons n l ih =>
      by_cases hn : n = 0
      · have hrun : zeroRun (n :: l) = zeroRun l + 1 := by simp [zeroRun, hn]
        rw [hrun, List.replicate_succ, List.cons_append, List.drop_succ_cons, ih, hn]
      · have hrun : zeroRun (n :: l) = 0 := by simp [zeroRun, hn]
        rw [hrun]
        rfl

/-- Eight groups of which a run of zeros is left out are read, and the zeros are put back. -/
theorem readAllGroups_gap (sp : Spelling) {before behind : List Nat} {run : Nat} (hrun : 2 ≤ run)
    (hlength : before.length + run + behind.length = 8) (hbefore : ∀ g ∈ before, g < groupSize)
    (hbehind : ∀ g ∈ behind, g < groupSize) :
    readAllGroups sp (groupsText before ++ "::".toList ++ groupsText behind) =
      some (before ++ List.replicate run 0 ++ behind) := by
  have hsplit : splitGap (groupsText before ++ "::".toList ++ groupsText behind) =
      some (groupsText before, groupsText behind) := by
    rw [List.append_assoc, splitGap_groupsText]
    show some (groupsText before ++ [], groupsText behind) = _
    rw [List.append_nil]
  have hallowed : sp.allowsGap before.length behind.length = true := by
    have hbeforeLess : before.length < 8 := by omega
    have hless : before.length + behind.length < 8 := by omega
    simp [Spelling.allowsGap, hbeforeLess, hless]
  have hzeros : 8 - (before.length + behind.length) = run := by omega
  simp only [readAllGroups, hsplit, readSide_groupsText sp _ hbefore,
    readSide_groupsText sp _ hbehind, bind, Option.bind_some, hallowed, if_true, hzeros, pure]

theorem readAllGroups_groupsText (sp : Spelling) {gs : List Nat} (hlength : gs.length = 8)
    (hgs : ∀ g ∈ gs, g < groupSize) : readAllGroups sp (groupsText gs) = some gs := by
  have hsplit : splitGap (groupsText gs) = none := by
    rw [← List.append_nil (groupsText gs), splitGap_groupsText]
    rfl
  rw [readAllGroups, hsplit]
  show (readSide sp true (groupsText gs)).filter (·.length == 8) = some gs
  rw [readSide_groupsText sp true hgs, Option.filter_some_pos (by simpa using hlength)]

/-- Groups are read from their text, whether a run of zeros was left out of it or not. -/
theorem readAllGroups_shortGroupsText (sp : Spelling) {gs : List Nat} (hlength : gs.length = 8)
    (hgs : ∀ g ∈ gs, g < groupSize) : readAllGroups sp (shortGroupsText gs) = some gs := by
  simp only [shortGroupsText]
  generalize longestRun gs = start
  split
  · next hrun =>
      have hzeros := replicate_zeroRun_append (gs.drop start)
      generalize zeroRun (gs.drop start) = run at hrun hzeros
      rw [List.drop_drop] at hzeros
      have hparts : gs.take start ++ List.replicate run 0 ++ gs.drop (start + run) = gs := by
        rw [List.append_assoc, hzeros, List.take_append_drop]
      have hcount : (gs.take start).length + run + (gs.drop (start + run)).length = 8 := by
        rw [← hlength, ← congrArg List.length hparts, List.length_append, List.length_append,
          List.length_replicate]
      rw [readAllGroups_gap sp hrun hcount (fun g hg => hgs g (List.mem_of_mem_take hg))
        (fun g hg => hgs g (List.mem_of_mem_drop hg)), hparts]
  · exact readAllGroups_groupsText sp hlength hgs

/-! ## Octets behind groups -/

theorem chars_mapped (bits : BitVec 32) :
    (mapped bits).chars = "::ffff:".toList ++ (v4 bits).chars := by
  have hbits : bits.toNat < v4Count := bits.isLt
  have hfront : (0xffff * v4Count + bits.toNat) / v4Count = 0xffff := by
    unfold v4Count at hbits ⊢
    omega
  have hoctets : (0xffff * v4Count + bits.toNat) % v4Count = bits.toNat := by
    unfold v4Count at hbits ⊢
    omega
  simp only [mapped, chars, toNat_mapped, hfront, hoctets, if_true]

theorem octetsText_cons_cons (a b : Nat) (os : List Nat) :
    octetsText (a :: b :: os) = Nat.toDigits 10 a ++ '.' :: octetsText (b :: os) := by
  simp only [octetsText, List.map_cons, List.intercalate_cons_cons, List.append_assoc,
    List.singleton_append]

/-- Four octets take more room than a group has. -/
theorem readGroup_octetsText {os : List Nat} (hlength : os.length = 4) :
    readGroup (octetsText os) = none := by
  have hlong : ¬(octetsText os).length ≤ 4 := by
    match os, hlength with
    | [a, b, c, d], _ =>
        have ha := Nat.length_toDigits_pos (b := 10) (n := a)
        have hb := Nat.length_toDigits_pos (b := 10) (n := b)
        rw [octetsText_cons_cons, octetsText_cons_cons, octetsText_cons_cons]
        simp only [List.length_append, List.length_cons]
        omega
  rw [readGroup, if_neg hlong]

/-- Behind groups there are three points, but the first field is no octet. -/
theorem readOctets_behind_groups (sp : Spelling) {front : List Char} (hfront : '.' ∉ front)
    (hlong : 3 < front.length) {os : List Nat} (hlength : os.length = 4) :
    readOctets sp (front ++ octetsText os) = none := by
  match os, hlength with
  | a :: b :: os, _ =>
      have hdigits : '.' ∉ Nat.toDigits 10 a :=
        not_mem_toDigits (by decide) (by decide) (by decide)
      have hfields : Text.fields '.' (front ++ octetsText (a :: b :: os)) =
          (front ++ Nat.toDigits 10 a) :: Text.fields '.' (octetsText (b :: os)) := by
        rw [octetsText_cons_cons, ← List.append_assoc]
        exact Text.fields_append_cons (by simp [hfront, hdigits]) _
      have hoctet : readOctet sp (front ++ Nat.toDigits 10 a) = none := by
        rw [readOctet, if_neg]
        rintro ⟨hshort, -⟩
        rw [List.length_append] at hshort
        omega
      simp only [readOctets, hfields, List.mapM_cons, hoctet, bind, Option.bind_none, ite_self]

/-- The groups of an address that stands for one of 32 bits. -/
def mappedGroups (os : List Nat) : List Nat :=
  List.replicate 5 0 ++ [0xffff, joinParts octetSize (os.take 2), joinParts octetSize (os.drop 2)]

theorem joinParts_mappedGroups {os : List Nat} (hlength : os.length = 4) :
    joinParts groupSize (mappedGroups os) = 0xffff * v4Count + joinParts octetSize os := by
  match os, hlength with
  | [a, b, c, d], _ =>
      simp [mappedGroups, joinParts, groupSize, octetSize, v4Count]
      omega

theorem readAllGroups_mapped (sp : Spelling) {os : List Nat} (hlength : os.length = 4)
    (hos : ∀ o ∈ os, o < octetSize) :
    readAllGroups sp ("::ffff:".toList ++ octetsText os) = some (mappedGroups os) := by
  have hfront : ':' ∉ "ffff".toList := by decide
  have hcolon : ':' ∉ octetsText os := fun h =>
    forall_mem_octetsText (P := (· ≠ ':')) (by decide) (by decide) os _ h rfl
  have hfields : Text.fields ':' ("ffff".toList ++ ':' :: octetsText os) =
      ["ffff".toList, octetsText os] := by
    rw [Text.fields_append_cons hfront, Text.fields_of_not_mem hcolon]
  have hquad : readGroups sp true [octetsText os] =
      some [joinParts octetSize (os.take 2), joinParts octetSize (os.drop 2)] := by
    rw [readGroups, readGroup_octetsText hlength]
    simp only [if_true, readOctets_octetsText sp hlength hos, Option.map_some]
  have hside : readSide sp true ("ffff".toList ++ ':' :: octetsText os) =
      some [0xffff, joinParts octetSize (os.take 2), joinParts octetSize (os.drop 2)] := by
    rw [readSide, if_neg (by simp), hfields, readGroups, hquad]
    · rfl
    · exact nofun
  have hsplit : splitGap ("::ffff:".toList ++ octetsText os) =
      some ([], "ffff".toList ++ ':' :: octetsText os) := rfl
  have hallowed : sp.allowsGap 0 3 = true := rfl
  simp only [readAllGroups, hsplit, bind, Option.bind_some, hside]
  rfl

/-! ## Addresses -/

theorem read?_mapped (sp : Spelling) (bits : BitVec 32) :
    read? sp (mapped bits).chars = some (mapped bits) := by
  have hlength : (octets bits.toNat).length = 4 := length_parts ..
  have hoctets : ∀ o ∈ octets bits.toNat, o < octetSize := fun o ho =>
    lt_of_mem_parts (by decide) ho
  have hnone : readOctets sp (mapped bits).chars = none := by
    rw [chars_mapped]
    exact readOctets_behind_groups sp (by decide) (by decide) hlength
  have hread : readAllGroups sp (mapped bits).chars =
      some (mappedGroups (octets bits.toNat)) := by
    rw [chars_mapped]
    exact readAllGroups_mapped sp hlength hoctets
  rw [read?, hnone, hread, Option.map_some, ofGroups, joinParts_mappedGroups hlength,
    joinParts_octets bits.isLt, mapped]

theorem read?_shortGroupsText (sp : Spelling) (bits : BitVec 128) :
    read? sp (shortGroupsText (groups bits.toNat)) = some (v6 bits) := by
  have hnone : readOctets sp (shortGroupsText (groups bits.toNat)) = none :=
    readOctets_eq_none sp fun h =>
      forall_mem_shortGroupsText (P := (· ≠ '.')) (by decide) (by decide) _ _ h rfl
  have hread : readAllGroups sp (shortGroupsText (groups bits.toNat)) =
      some (groups bits.toNat) :=
    readAllGroups_shortGroupsText sp (length_parts ..) fun g hg =>
      lt_of_mem_parts (by decide) hg
  rw [read?, hnone, hread]
  exact congrArg some (ofGroups_groups bits)

/-- An address is read from its own text. -/
theorem read?_chars (sp : Spelling) (a : Address) : read? sp a.chars = some a := by
  cases a with
  | v4 bits =>
      have hread : readOctets sp (v4 bits).chars = some (octets bits.toNat) :=
        readOctets_octetsText sp (length_parts ..) fun o ho => lt_of_mem_parts (by decide) ho
      rw [read?, hread]
      exact congrArg some (ofOctets_octets bits)
  | v6 bits =>
      by_cases hmapped : bits.toNat / v4Count = 0xffff
      · obtain ⟨low, hlow⟩ := exists_mapped hmapped
        rw [hlow, read?_mapped]
      · rw [chars, if_neg hmapped, read?_shortGroupsText]

end NetActivation.Address
