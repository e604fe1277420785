/-
  Federation.Proofs.Url.Address
  ─────────────────────────────
  **NUMERIC HOSTS READ BACK.**

  An IPv4 address that was read is four bytes, an IPv6 address eight pieces
  of sixteen bits.  Written in the one way there is, each reads as itself.

  Main results:
    * `numberIn?_toDigits` — a number in a base;
    * `ipv4?_ipv4Text`, `endsInNumber_ipv4Text` — IPv4;
    * `ipv6?_ipv6Text` — IPv6, whichever run of zeros is left out.
-/
import Federation.Proofs.Collect
import Federation.Proofs.Text.Digits
import Federation.Proofs.Text.Split
import Federation.Url.Address

namespace Federation.Url

open Text (splitAll splitAll_intercalate mem_of_mem_intercalate)

/-! ## §1. Numbers in a base. -/

theorem digitIn?_digitChar {base n : Nat} (hbase : base ≤ 16) (h : n < base) :
    digitIn? base n.digitChar = some n := by
  have all : ∀ b ∈ List.range 17, ∀ m ∈ List.range 16, m < b →
      digitIn? b m.digitChar = some m := by decide
  exact all base (List.mem_range.2 (by omega)) n (List.mem_range.2 (by omega)) h

theorem numberIn?_concat (base : Nat) (cs : List Char) (c : Char) :
    numberIn? base (cs ++ [c])
      = (numberIn? base cs).bind fun acc => (digitIn? base c).map (acc * base + ·) := by
  unfold numberIn?
  rw [List.foldlM_append]
  simp only [List.foldlM_cons, List.foldlM_nil]
  cases List.foldlM (fun acc c => (digitIn? base c).map (acc * base + ·)) 0 cs with
  | none => rfl
  | some acc => exact Option.bind_fun_some _

/-- **A number in a base reads as itself.** -/
theorem numberIn?_toDigits {base : Nat} (hlow : 1 < base) (hbase : base ≤ 16) (n : Nat) :
    numberIn? base (Nat.toDigits base n) = some n := by
  induction n using Nat.strongRecOn with
  | ind n ih =>
      rw [Nat.toDigits_eq_if hlow]
      by_cases hsmall : n < base
      · rw [if_pos hsmall]
        have hone := numberIn?_concat base [] n.digitChar
        rw [List.nil_append, digitIn?_digitChar hbase hsmall] at hone
        simpa [numberIn?] using hone
      · rw [if_neg hsmall, numberIn?_concat, ih (n / base) (Nat.div_lt_self (by omega) hlow),
          digitIn?_digitChar hbase (Nat.mod_lt n (by omega))]
        simp only [Option.bind_some, Option.map_some]
        rw [Nat.div_add_mod']

theorem digitIn?_lt {base d : Nat} {c : Char} (h : digitIn? base c = some d) : d < base := by
  have := (Option.filter_eq_some_iff.1 h).2
  exact of_decide_eq_true this

/-- Every further digit makes the bound `base` times as large. -/
theorem foldlM_digitIn?_lt {base : Nat} (cs : List Char) :
    ∀ {acc n : Nat}, cs.foldlM (fun acc c => (digitIn? base c).map (acc * base + ·)) acc = some n →
      n < (acc + 1) * Nat.pow base cs.length := by
  induction cs with
  | nil =>
      intro acc n h
      obtain rfl := Option.some.inj h
      show acc < (acc + 1) * 1
      omega
  | cons c cs ih =>
      intro acc n h
      rw [List.foldlM_cons] at h
      obtain ⟨next, hnext, h⟩ := Option.bind_eq_some_iff.1 h
      obtain ⟨d, hdigit, rfl⟩ := Option.map_eq_some_iff.1 hnext
      have hd := digitIn?_lt hdigit
      have hstep : acc * base + d + 1 ≤ (acc + 1) * base := by
        rw [Nat.add_mul, Nat.one_mul]
        omega
      calc n < (acc * base + d + 1) * Nat.pow base cs.length := ih h
        _ ≤ (acc + 1) * base * Nat.pow base cs.length := Nat.mul_le_mul_right _ hstep
        _ = (acc + 1) * (Nat.pow base cs.length * base) := by
          rw [Nat.mul_assoc, Nat.mul_comm base]

/-- What few digits write is small. -/
theorem numberIn?_lt {base n : Nat} {cs : List Char} (h : numberIn? base cs = some n) :
    n < Nat.pow base cs.length := by
  have hall := foldlM_digitIn?_lt cs h
  rwa [Nat.zero_add, Nat.one_mul] at hall

/-- The digits of a base. -/
theorem mem_toDigits {base : Nat} (hlow : 1 < base) (hbase : base ≤ 16) (n : Nat) :
    ∀ c ∈ Nat.toDigits base n, ∃ d < base, c = d.digitChar := by
  induction n using Nat.strongRecOn with
  | ind n ih =>
      rw [Nat.toDigits_eq_if hlow]
      by_cases hsmall : n < base
      · rw [if_pos hsmall]
        exact fun c hc => ⟨n, hsmall, List.mem_singleton.1 hc⟩
      · rw [if_neg hsmall]
        intro c hc
        rcases List.mem_append.1 hc with hc | hc
        · exact ih (n / base) (Nat.div_lt_self (by omega) hlow) c hc
        · exact ⟨n % base, Nat.mod_lt n (by omega), List.mem_singleton.1 hc⟩

/-- A character that is no digit of the base stands nowhere in a number. -/
theorem not_mem_toDigits {base : Nat} (hlow : 1 < base) (hbase : base ≤ 16) {c : Char}
    (h : digitIn? 16 c = none) (n : Nat) : c ∉ Nat.toDigits base n := by
  intro hc
  obtain ⟨d, hd, rfl⟩ := mem_toDigits hlow hbase n c hc
  rw [digitIn?_digitChar (Nat.le_refl 16) (Nat.lt_of_lt_of_le hd hbase)] at h
  cases h

/-! ## §2. IPv4. -/

/-- The four bytes of an address. -/
def bytes (a : Nat) : List Nat := [a / 16777216 % 256, a / 65536 % 256, a / 256 % 256, a % 256]

theorem toList_ipv4Text (a : Nat) :
    (ipv4Text a).toList = ['.'].intercalate ((bytes a).map (Nat.toDigits 10)) := by
  show (".".intercalate ((bytes a).map toString)).toList = _
  rw [String.toList_intercalate, List.map_map]
  congr 1
  exact List.map_congr_left fun n _ => Nat.toList_repr

/-- The characters of an IPv4 address are digits and points. -/
theorem not_mem_ipv4Text {c : Char} (h : digitIn? 16 c = none) (hc : c ≠ '.') (a : Nat) :
    c ∉ (ipv4Text a).toList := by
  rw [toList_ipv4Text]
  intro hmem
  obtain rfl | ⟨piece, hpiece, hmem⟩ := mem_of_mem_intercalate hmem
  · exact hc rfl
  · obtain ⟨n, -, rfl⟩ := List.mem_map.1 hpiece
    exact not_mem_toDigits (by decide) (by decide) h n hmem

theorem hostParts_ipv4Text (a : Nat) :
    hostParts (ipv4Text a).toList = (bytes a).map (Nat.toDigits 10) := by
  have hsplit : splitAll (· == '.') (ipv4Text a).toList = (bytes a).map (Nat.toDigits 10) := by
    rw [toList_ipv4Text]
    refine splitAll_intercalate (List.cons_ne_nil _ _) fun piece hpiece => ?_
    obtain ⟨n, -, rfl⟩ := List.mem_map.1 hpiece
    exact not_mem_toDigits (by decide) (by decide) (by decide) n
  unfold hostParts
  rw [hsplit]
  exact if_neg fun h => Nat.toDigits_ne_nil (Option.some.inj h)

/-- A number without leading zeros is decimal. -/
theorem ipv4Part?_toDigits (n : Nat) : ipv4Part? (Nat.toDigits 10 n) = some n := by
  have hnumber : numberIn? 10 (Nat.toDigits 10 n) = some n :=
    numberIn?_toDigits (by decide) (by decide) n
  rcases Nat.eq_zero_or_pos n with rfl | hpos
  · rfl
  · have hhead := Text.head_toDigits_ne_zero hpos
    generalize Nat.toDigits 10 n = cs at hnumber hhead
    unfold ipv4Part?
    split
    · simp [numberIn?] at hnumber
      omega
    · exact absurd rfl (hhead _)
    · exact absurd rfl (hhead _)
    · exact absurd rfl (hhead _)
    · exact hnumber

/-- What the bytes of an address weigh. -/
theorem weights : Nat.pow 256 4 = 4294967296 ∧ Nat.pow 256 3 = 16777216 ∧
    Nat.pow 256 2 = 65536 ∧ Nat.pow 256 1 = 256 := by decide

/-- **An IPv4 address reads as itself.** -/
theorem ipv4?_ipv4Text {a : Nat} (h : a < 4294967296) : ipv4? (ipv4Text a).toList = some a := by
  unfold ipv4?
  rw [hostParts_ipv4Text, mapM_map_some fun n _ => ipv4Part?_toDigits n, Option.bind_some]
  have hlast : (bytes a).getLast? = some (a % 256) := rfl
  have hfront : (bytes a).dropLast = [a / 16777216 % 256, a / 65536 % 256, a / 256 % 256] := rfl
  have hbytes : ¬[a / 16777216 % 256, a / 65536 % 256, a / 256 % 256].any (255 < ·) = true := by
    simp
    omega
  have hsmall : ¬256 ≤ a % 256 := by omega
  unfold ipv4OfNumbers?
  rw [hlast]
  dsimp only
  rw [hfront, if_neg (by simp), if_neg hbytes]
  simp only [weights, List.length_cons, List.length_nil, Nat.reduceAdd, Nat.reduceSub, hsmall,
    if_false, List.zipIdx_cons, List.zipIdx_nil, List.foldl_cons, List.foldl_nil]
  congr 1
  omega

/-- It ends in a number, so it is not taken for a name. -/
theorem endsInNumber_ipv4Text (a : Nat) : endsInNumber (ipv4Text a).toList = true := by
  unfold endsInNumber
  rw [hostParts_ipv4Text]
  have hlast : ((bytes a).map (Nat.toDigits 10)).getLast? = some (Nat.toDigits 10 (a % 256)) := rfl
  rw [hlast]
  have hpart := ipv4Part?_toDigits (a % 256)
  cases hdigits : Nat.toDigits 10 (a % 256) with
  | nil => exact absurd hdigits Nat.toDigits_ne_nil
  | cons c cs =>
      rw [hdigits] at hpart
      show (_ || (ipv4Part? (c :: cs)).isSome) = true
      rw [hpart, Option.isSome_some, Bool.or_true]

/-- At most three bytes and a number that fills the rest make four bytes. -/
theorem weigh_lt {w : Nat → Nat} (h3 : w 3 = 16777216) (h2 : w 2 = 65536) (h1 : w 1 = 256)
    {front : List Nat} {last : Nat} (hfew : front.length ≤ 3) (hall : ∀ x ∈ front, x ≤ 255)
    (h4 : w 4 = 4294967296) (hlast : last < w (4 - front.length)) :
    front.zipIdx.foldl (fun acc (n, i) => acc + n * w (3 - i)) last < 4294967296 := by
  match front with
  | [] => simpa [h4] using hlast
  | [x] =>
      have hx := hall x (by simp)
      have hlast : last < w 3 := hlast
      show last + x * w 3 < 4294967296
      rw [h3] at hlast ⊢
      omega
  | [x, y] =>
      have hx := hall x (by simp)
      have hy := hall y (by simp)
      have hlast : last < w 2 := hlast
      show last + x * w 3 + y * w 2 < 4294967296
      rw [h2] at hlast
      rw [h3, h2]
      omega
  | [x, y, z] =>
      have hx := hall x (by simp)
      have hy := hall y (by simp)
      have hz := hall z (by simp)
      have hlast : last < w 1 := hlast
      show last + x * w 3 + y * w 2 + z * w 1 < 4294967296
      rw [h1] at hlast
      rw [h3, h2, h1]
      omega
  | _ :: _ :: _ :: _ :: _ => exact absurd hfew (by simp)

/-- An IPv4 address that was read is four bytes. -/
theorem ipv4OfNumbers?_lt {ns : List Nat} {a : Nat} (h : ipv4OfNumbers? ns = some a) :
    a < 4294967296 := by
  unfold ipv4OfNumbers? at h
  split at h
  · cases h
  · rename_i last _
    dsimp only at h
    rw [Option.ite_none_left_eq_some, Option.ite_none_left_eq_some,
      Option.ite_none_left_eq_some] at h
    obtain ⟨hfew, hbytes, hlast, heq⟩ := h
    rw [← Option.some.inj heq]
    -- The weights stay closed: opened, each would be counted out.
    exact weigh_lt weights.2.1 weights.2.2.1 weights.2.2.2 (Nat.le_of_not_lt hfew)
      (by simpa using hbytes) weights.1 (Nat.lt_of_not_le hlast)

theorem ipv4?_lt {cs : List Char} {a : Nat} (h : ipv4? cs = some a) : a < 4294967296 := by
  unfold ipv4? at h
  obtain ⟨ns, -, hns⟩ := Option.bind_eq_some_iff.1 h
  exact ipv4OfNumbers?_lt hns

/-! ## §3. Pieces of an IPv6 address. -/

/-- Whether a number fits a piece. -/
def Sixteen (n : Nat) : Prop := n < 65536

/-- The digits of pieces with colons between them. -/
def colons (ns : List Nat) : List Char := [':'].intercalate (ns.map (Nat.toDigits 16))

theorem colons_cons_cons (n m : Nat) (ns : List Nat) :
    colons (n :: m :: ns) = Nat.toDigits 16 n ++ ':' :: colons (m :: ns) := by
  unfold colons
  rw [List.map_cons, List.map_cons, List.intercalate_cons_cons, List.append_assoc]
  rfl

theorem toList_pieces (ns : List Nat) :
    (":".intercalate (ns.map pieceText)).toList = colons ns := by
  rw [String.toList_intercalate, List.map_map]
  unfold colons
  congr 1
  exact List.map_congr_left fun n _ => String.toList_ofList

theorem not_mem_piece {c : Char} (h : digitIn? 16 c = none) (n : Nat) :
    c ∉ Nat.toDigits 16 n := not_mem_toDigits (by decide) (Nat.le_refl 16) h n

theorem not_mem_colons {c : Char} (h : digitIn? 16 c = none) (hc : c ≠ ':') (ns : List Nat) :
    c ∉ colons ns := by
  intro hmem
  obtain rfl | ⟨piece, hpiece, hmem⟩ := mem_of_mem_intercalate hmem
  · exact hc rfl
  · obtain ⟨n, -, rfl⟩ := List.mem_map.1 hpiece
    exact not_mem_piece h n hmem

/-- A piece reads as itself. -/
theorem piece?_toDigits {n : Nat} (h : Sixteen n) :
    ipv6Pieces?.piece? (Nat.toDigits 16 n) = some n := by
  have hlength : ¬4 < (Nat.toDigits 16 n).length :=
    Nat.not_lt.2 ((Nat.length_toDigits_le_iff (by decide) (by decide)).2 h)
  have hsome : (Nat.toDigits 16 n).isEmpty = false := by
    rw [List.isEmpty_eq_false_iff]
    exact Nat.toDigits_ne_nil
  unfold ipv6Pieces?.piece?
  rw [if_neg (by simp [hsome, hlength])]
  exact numberIn?_toDigits (by decide) (Nat.le_refl 16) n

theorem ipv6Pieces?_map {ns : List Nat} (h : ∀ n ∈ ns, Sixteen n) :
    ipv6Pieces? (ns.map (Nat.toDigits 16)) = some ns := by
  induction ns with
  | nil => rfl
  | cons n ns ih =>
      have hn := piece?_toDigits (h n List.mem_cons_self)
      have hns := ih fun m hm => h m (List.mem_cons_of_mem n hm)
      cases ns with
      | nil =>
          have hpoint : (Nat.toDigits 16 n).contains '.' = false := by
            simpa using not_mem_piece (c := '.') (by decide) n
          show (if _ then _ else _) = _
          rw [hpoint, if_neg (by decide), hn]
          rfl
      | cons m ns =>
          show (ipv6Pieces?.piece? _ >>= _) = _
          rw [hn]
          show (ipv6Pieces? ((m :: ns).map (Nat.toDigits 16)) >>= _) = _
          rw [hns]
          rfl

theorem sidePieces?_colons {ns : List Nat} (h : ∀ n ∈ ns, Sixteen n) :
    sidePieces? (colons ns) = some ns := by
  unfold sidePieces?
  cases ns with
  | nil => rfl
  | cons n ns =>
      have hsplit : splitAll (· == ':') (colons (n :: ns)) = (n :: ns).map (Nat.toDigits 16) := by
        refine splitAll_intercalate (List.cons_ne_nil _ _) fun piece hpiece => ?_
        obtain ⟨m, -, rfl⟩ := List.mem_map.1 hpiece
        exact not_mem_piece (by decide) m
      have hne : colons (n :: ns) ≠ [] := by
        intro hnil
        rw [hnil] at hsplit
        have hfirst := (List.cons.inj hsplit).1
        exact Nat.toDigits_ne_nil hfirst.symm
      rw [if_neg (by simpa using hne), hsplit, ipv6Pieces?_map h]

/-! ## §4. The run of zeros. -/

/-- Pieces are cut at the double colon that stands between them. -/
theorem splitDoubleColon_piece {piece : List Char} (h : ':' ∉ piece) (tail : List Char) :
    splitDoubleColon (piece ++ tail)
      = (splitDoubleColon tail).map fun (a, b) => (piece ++ a, b) := by
  induction piece with
  | nil => simp
  | cons c piece ih =>
      have hc : c ≠ ':' := fun heq => h (heq ▸ List.mem_cons_self)
      have hpiece := ih fun hmem => h (List.mem_cons_of_mem c hmem)
      rw [List.cons_append, splitDoubleColon, hpiece, Option.map_map]
      · rfl
      · exact fun rest heq => absurd heq hc

/-- A colon by itself does not count. -/
theorem splitDoubleColon_colon {cs : List Char} (h : ∀ c ∈ cs.head?, c ≠ ':') :
    splitDoubleColon (':' :: cs) = (splitDoubleColon cs).map fun (a, b) => (':' :: a, b) := by
  cases cs with
  | nil => rfl
  | cons c cs =>
      have hc : c ≠ ':' := h c rfl
      rw [splitDoubleColon]
      exact fun rest _ heq => hc (List.cons.inj heq).1

/-- A piece has a first digit. -/
theorem head_colons (n : Nat) (ns : List Nat) (tail : List Char) :
    ∀ c ∈ (colons (n :: ns) ++ tail).head?, c ≠ ':' := by
  intro c hc heq
  have hsome : Nat.toDigits 16 n ≠ [] := Nat.toDigits_ne_nil
  obtain ⟨d, ds, hdigits⟩ := List.exists_cons_of_ne_nil hsome
  have hfirst : (colons (n :: ns) ++ tail).head? = some d := by
    unfold colons
    cases ns <;> simp [hdigits, List.intercalate_cons_cons]
  have hd := not_mem_piece (c := ':') (by decide) n
  rw [hfirst, Option.mem_some_iff] at hc
  rw [hdigits, hc, heq] at hd
  exact hd List.mem_cons_self

/-- **Pieces hold no double colon of their own.** -/
theorem splitDoubleColon_colons (ns : List Nat) (tail : List Char) :
    splitDoubleColon (colons ns ++ tail)
      = (splitDoubleColon tail).map fun (a, b) => (colons ns ++ a, b) := by
  induction ns with
  | nil => simp [colons]
  | cons n ns ih =>
      have hn : ':' ∉ Nat.toDigits 16 n := not_mem_piece (by decide) n
      cases ns with
      | nil => simpa [colons] using splitDoubleColon_piece hn tail
      | cons m ns =>
          rw [colons_cons_cons, List.append_assoc, List.cons_append, splitDoubleColon_piece hn,
            splitDoubleColon_colon (head_colons m ns tail), ih, Option.map_map, Option.map_map]
          congr 1
          funext p
          simp

/-- The run of zeros that is left out stands where it is said to. -/
theorem longestRun_spec (ns : List Nat) : ∀ i, (longestRun i ns).2 = 0 ∨
    ∃ front back, ns = front ++ List.replicate (longestRun i ns).2 0 ++ back ∧
      (longestRun i ns).1 = i + front.length := by
  induction ns with
  | nil => exact fun i => .inl rfl
  | cons n ns ih =>
      intro i
      rw [longestRun]
      split
      · -- The run at the front is the longest.
        refine .inr ⟨[], (n :: ns).dropWhile (· == 0), ?_, rfl⟩
        have hrun : (n :: ns).takeWhile (· == 0) = List.replicate (zeroRun (n :: ns)) 0 := by
          refine List.eq_replicate_iff.2 ⟨rfl, fun m hm => ?_⟩
          simpa using List.mem_takeWhile_imp hm
        rw [List.nil_append, ← hrun, List.takeWhile_append_dropWhile]
      · rename_i hlonger
        rcases ih (i + 1) with hzero | ⟨front, back, hns, hstart⟩
        · omega
        · refine .inr ⟨n :: front, back, ?_, ?_⟩
          · rw [List.cons_append, List.cons_append, ← hns]
          · rw [hstart, List.length_cons]
            omega

/-! ## §5. IPv6. -/

/-- Eight pieces read as they stand. -/
theorem ipv6?_colons {ns : List Nat} (hlength : ns.length = 8) (h : ∀ n ∈ ns, Sixteen n) :
    ipv6? (colons ns) = some ns := by
  have hnone : splitDoubleColon (colons ns) = none := by
    simpa [splitDoubleColon] using splitDoubleColon_colons ns []
  unfold ipv6?
  rw [hnone]
  dsimp only
  rw [sidePieces?_colons h, Option.filter_some, if_pos (by simpa using hlength)]

/-- **A double colon reads as the zeros that are missing.** -/
theorem ipv6?_doubleColon {front back : List Nat} {len : Nat} (hlen : 1 ≤ len)
    (hsum : front.length + len + back.length = 8) (hfront : ∀ n ∈ front, Sixteen n)
    (hback : ∀ n ∈ back, Sixteen n) :
    ipv6? (colons front ++ ':' :: ':' :: colons back)
      = some (front ++ List.replicate len 0 ++ back) := by
  have hsplit : splitDoubleColon (colons front ++ ':' :: ':' :: colons back)
      = some (colons front, colons back) := by
    rw [splitDoubleColon_colons]
    simp [splitDoubleColon]
  have hpoint : (colons front).contains '.' = false := by
    simpa using not_mem_colons (c := '.') (by decide) (by decide) front
  have hmissing : 8 - front.length - back.length = len := by omega
  unfold ipv6?
  rw [hsplit]
  dsimp only
  rw [hpoint, if_neg (by decide), sidePieces?_colons hfront, sidePieces?_colons hback]
  show (if front.length + back.length ≤ 7 then _ else _) = _
  rw [if_pos (by omega), hmissing]

/-- **An IPv6 address reads as itself.** -/
theorem ipv6?_ipv6Text {ns : List Nat} (hlength : ns.length = 8) (h : ∀ n ∈ ns, Sixteen n) :
    ipv6? (ipv6Text ns).toList = some ns := by
  unfold ipv6Text
  dsimp only
  generalize hrun : longestRun 0 ns = run
  obtain ⟨start, len⟩ := run
  have hspec := longestRun_spec ns 0
  rw [hrun] at hspec
  dsimp only at hspec ⊢
  by_cases hshort : len < 2
  · -- No run is left out.
    rw [if_pos hshort, toList_pieces]
    exact ipv6?_colons hlength h
  · obtain hzero | ⟨front, back, hns, hstart⟩ := hspec
    · omega
    · rw [Nat.zero_add] at hstart
      have htake : ns.take start = front := by
        rw [hns, hstart, List.append_assoc, List.take_left]
      have hdrop : ns.drop (start + len) = back := by
        rw [hns, hstart]
        exact List.drop_left' (by simp)
      have htext : (":".intercalate (front.map pieceText) ++ "::"
            ++ ":".intercalate (back.map pieceText)).toList
          = colons front ++ ':' :: ':' :: colons back := by
        rw [String.toList_append, String.toList_append, toList_pieces, toList_pieces]
        simp
      have hsum : front.length + len + back.length = 8 := by
        rw [hns] at hlength
        simpa [Nat.add_assoc] using hlength
      rw [if_neg hshort, htake, hdrop, htext, hns]
      exact ipv6?_doubleColon (by omega) hsum (fun n hn => h n (by rw [hns]; simp [hn]))
        (fun n hn => h n (by rw [hns]; simp [hn]))

/-- The characters of an IPv6 address are hexadecimal digits and colons. -/
theorem not_mem_ipv6Text {c : Char} (h : digitIn? 16 c = none) (hc : c ≠ ':') (ns : List Nat) :
    c ∉ (ipv6Text ns).toList := by
  have hcolons := not_mem_colons h hc
  unfold ipv6Text
  dsimp only
  split
  · rw [toList_pieces]
    exact hcolons ns
  · rw [String.toList_append, String.toList_append, toList_pieces, toList_pieces]
    simp only [List.mem_append, not_or]
    refine ⟨⟨hcolons _, ?_⟩, hcolons _⟩
    simpa using hc

/-! ## §6. What was read. -/

theorem sixteen_of_piece? {piece : List Char} {n : Nat} (h : ipv6Pieces?.piece? piece = some n) :
    Sixteen n := by
  unfold ipv6Pieces?.piece? at h
  rw [Option.ite_none_left_eq_some] at h
  obtain ⟨hlength, hnumber⟩ := h
  have hfour : piece.length ≤ 4 := by
    simp only [Bool.or_eq_true, decide_eq_true_iff, not_or] at hlength
    omega
  exact Nat.lt_of_lt_of_le (numberIn?_lt hnumber) (Nat.pow_le_pow_right (by decide) hfour)

/-- Four decimal numbers make two pieces. -/
theorem sixteen_of_embedded {cs : List Char} {ns : List Nat} (h : embeddedIpv4? cs = some ns) :
    ∀ n ∈ ns, Sixteen n := by
  unfold embeddedIpv4? at h
  dsimp only at h
  split at h
  · rename_i a b c d hparts
    have hbyte : ∀ n ∈ [a, b, c, d], n ≤ 255 := by
      intro n hn
      obtain ⟨part, -, hpart⟩ := exists_of_mem_mapM hparts n hn
      split at hpart
      · cases hpart
      · cases hpart
      · exact of_decide_eq_true (Option.filter_eq_some_iff.1 hpart).2
    have ha := hbyte a (by simp)
    have hb := hbyte b (by simp)
    have hc := hbyte c (by simp)
    have hd := hbyte d (by simp)
    obtain rfl := Option.some.inj h
    intro n hn
    show n < 65536
    rcases List.mem_cons.1 hn with rfl | hn
    · omega
    · obtain rfl := List.mem_singleton.1 hn
      omega
  · cases h

theorem sixteen_of_pieces {pieces : List (List Char)} {ns : List Nat}
    (h : ipv6Pieces? pieces = some ns) : ∀ n ∈ ns, Sixteen n := by
  induction pieces generalizing ns with
  | nil =>
      obtain rfl := Option.some.inj h
      exact fun n hn => nomatch hn
  | cons piece pieces ih =>
      cases pieces with
      | nil =>
          rw [ipv6Pieces?] at h
          split at h
          · exact sixteen_of_embedded h
          · obtain ⟨n, hpiece, rfl⟩ := Option.map_eq_some_iff.1 h
            exact fun m hm => List.mem_singleton.1 hm ▸ sixteen_of_piece? hpiece
      | cons next pieces =>
          obtain ⟨n, hpiece, hrest⟩ := Option.bind_eq_some_iff.1 h
          obtain ⟨ms, hms, heq⟩ := Option.bind_eq_some_iff.1 hrest
          obtain rfl := Option.some.inj heq
          intro m hm
          rcases List.mem_cons.1 hm with rfl | hm
          · exact sixteen_of_piece? hpiece
          · exact ih hms m hm

theorem sixteen_of_side {cs : List Char} {ns : List Nat} (h : sidePieces? cs = some ns) :
    ∀ n ∈ ns, Sixteen n := by
  unfold sidePieces? at h
  split at h
  · obtain rfl := Option.some.inj h
    exact fun n hn => nomatch hn
  · exact sixteen_of_pieces h

/-- **An IPv6 address that was read** is eight pieces of sixteen bits. -/
theorem sixteen_of_ipv6? {cs : List Char} {ns : List Nat} (h : ipv6? cs = some ns) :
    ns.length = 8 ∧ ∀ n ∈ ns, Sixteen n := by
  unfold ipv6? at h
  split at h
  · obtain ⟨hside, hlength⟩ := Option.filter_eq_some_iff.1 h
    exact ⟨of_decide_eq_true hlength, sixteen_of_side hside⟩
  · rw [Option.ite_none_left_eq_some] at h
    obtain ⟨left, hleft, h⟩ := Option.bind_eq_some_iff.1 h.2
    obtain ⟨right, hright, h⟩ := Option.bind_eq_some_iff.1 h
    rw [Option.ite_none_right_eq_some] at h
    obtain ⟨hfew, heq⟩ := h
    obtain rfl := Option.some.inj heq
    refine ⟨?_, fun n hn => ?_⟩
    · simp only [List.length_append, List.length_replicate]
      omega
    · rcases List.mem_append.1 hn with hn | hn
      · rcases List.mem_append.1 hn with hn | hn
        · exact sixteen_of_side hleft n hn
        · rw [(List.mem_replicate.1 hn).2]
          show 0 < 65536
          decide
      · exact sixteen_of_side hright n hn

end Federation.Url
