/-
  Federation.Proofs.Directory.Nickname
  ────────────────────────────────────
  **NICKNAMES THAT STAY USABLE.**

  A name has no equals sign and a URN no comma, because each ended at the
  first one; and none of the three parts of a directive has outer blanks.  So
  the signs between the parts are where they are looked for, whatever else
  stands in the URL, and the text of a directive is read as that directive.

  Whatever names were declared twice, every entry of a table is what one of
  the directives says, and so has a usable address.  A name of the table that
  is no URL is therefore resolved always, and the way back from its address
  leads to an entry at the same address.

  Names are folded by the twenty-six ASCII letters alone, so `é` is no other
  writing of `É` here, though it is in a domain name.

  Main results:
    * `Directive.read_text` — a directive is read back;
    * `Nicknames.Serves` — what a name of a table is good for;
    * `serves_of_mem` — every name of a table of proper directives;
    * `directives_stay_usable` — the texts of directives and the tables of
      them.
-/
import Federation.Proofs.Directory.Remade
import Federation.Proofs.Keyed
import Federation.Proofs.Text.Fold
import Federation.Proofs.Text.Split

namespace Federation.Directory

open Text (Unpadded trim)

/-! ## §1. Directives read back. -/

namespace Directive

/-- **What a directive consists of** that was read. -/
structure Proper (d : Directive) : Prop where
  nickname_ne : d.nickname ≠ ""
  nickname_uncut : '=' ∉ d.nickname.toList
  urn_uncut : ',' ∉ d.urn.toList
  nickname_unpadded : Unpadded d.nickname
  urn_unpadded : Unpadded d.urn
  url_unpadded : Unpadded d.url
  usable : ∃ canonical, Url.canonical d.url = .ok canonical

/-- A sign that a text is cut at is not in the part before it, trimmed or not. -/
theorem not_mem_trim {sign : Char} {s : String} (h : ∀ c ∈ s.toList, (c == sign) = false) :
    sign ∉ (trim s).toList := fun hmem => by
  have hsign := h sign ((Text.trim_sublist s).subset hmem)
  rw [beq_self_eq_true] at hsign
  cases hsign

/-- **Every directive that was read is proper.** -/
theorem proper_of_read {s : String} {d : Directive} (h : read s = .ok d) : d.Proper := by
  unfold read at h
  split at h
  · cases h
  · rename_i name target hname
    split at h
    · cases h
    · rename_i urn url hurn
      split at h
      · cases h
      · rename_i hne
        split at h
        · cases h
        · rename_i canonical hcanonical
          obtain rfl := Except.ok.inj h
          obtain ⟨-, -, -, hequals⟩ := Text.splitOnce_eq_some hname
          obtain ⟨-, -, -, hcomma⟩ := Text.splitOnce_eq_some hurn
          exact
            { nickname_ne := fun hnone => hne (String.isEmpty_iff.2 hnone)
              nickname_uncut := not_mem_trim hequals
              urn_uncut := not_mem_trim hcomma
              nickname_unpadded := Text.unpadded_trim name
              urn_unpadded := Text.unpadded_trim urn
              url_unpadded := Text.unpadded_trim url
              usable := ⟨canonical, hcanonical⟩ }

/-- **A directive is read back** from its text. -/
theorem read_text {d : Directive} (h : d.Proper) : read d.text = .ok d := by
  obtain ⟨canonical, hcanonical⟩ := h.usable
  have htext : d.text = d.nickname ++ String.singleton '=' ++
      (d.urn ++ String.singleton ',' ++ d.url) := by
    unfold text
    simp only [String.append_assoc]
    rfl
  have hname : ¬d.nickname.isEmpty = true := fun hnone => h.nickname_ne (String.isEmpty_iff.1 hnone)
  -- No sign stands before the one that was put there, so that is the first.
  unfold read
  rw [htext, Text.splitOnce_append (Text.beq_false_of_not_mem h.nickname_uncut) (by rfl)]
  dsimp only
  rw [Text.splitOnce_append (Text.beq_false_of_not_mem h.urn_uncut) (by rfl)]
  dsimp only
  rw [Text.trim_eq_self_iff.2 h.nickname_unpadded, Text.trim_eq_self_iff.2 h.urn_unpadded,
    Text.trim_eq_self_iff.2 h.url_unpadded, if_neg hname, hcanonical]

end Directive

/-! ## §2. Tables of directives. -/

theorem nameKey_nameKey (name : String) : nameKey (nameKey name) = nameKey name :=
  Text.lower_trim_idem name

theorem nameKey_trim (name : String) : nameKey (trim name) = nameKey name := by
  unfold nameKey
  rw [Text.trim_trim]

namespace Nicknames

/-- **Every entry is what one of the directives says.** -/
theorem mem_ofDirectives {ds : List Directive} {entry : String × Target}
    (h : entry ∈ ofDirectives ds) : ∃ d ∈ ds, (nameKey d.nickname, ⟨d.urn, d.url⟩) = entry := by
  rw [ofDirectives_eq] at h
  exact List.mem_map.1 (Keyed.mem_of_mem_ofPairs h)

/-- Every entry is found under its own key. -/
theorem lookup_key {ds : List Directive} {key : String} {target : Target}
    (h : (key, target) ∈ ofDirectives ds) : (ofDirectives ds).lookup key = some target := by
  obtain ⟨d, -, hentry⟩ := mem_ofDirectives h
  obtain ⟨rfl, -⟩ := Prod.mk.inj hentry
  unfold lookup
  rw [nameKey_nameKey]
  exact Keyed.get?_of_mem (Keyed.nodup_keys (ascending_ofDirectives ds)) h

/-- Every name that was declared has an entry, under whatever form of the name. -/
theorem exists_entry {ds : List Directive} {d : Directive} (hd : d ∈ ds) {name : String}
    (hname : nameKey name = nameKey d.nickname) :
    ∃ target, (nameKey name, target) ∈ ofDirectives ds ∧
      (ofDirectives ds).lookup name = some target := by
  have hkey : nameKey name ∈ (ofDirectives ds).keys := by
    rw [ofDirectives_eq, Keyed.mem_keys_ofPairs, List.map_map, hname]
    exact List.mem_map.2 ⟨d, hd, rfl⟩
  obtain ⟨⟨key, target⟩, hentry, hsame⟩ := List.mem_map.1 hkey
  obtain rfl : key = nameKey name := hsame
  refine ⟨target, hentry, ?_⟩
  have hlookup := lookup_key hentry
  unfold lookup at hlookup ⊢
  rwa [nameKey_nameKey] at hlookup

/-- **What a name of a table is good for**: it has an entry with a usable address; where it is no
URL, it is resolved to that address, and nobody is asked; and the way back from the address leads to
a name with an entry at the same one. -/
structure Serves (t : Nicknames) (name : String) (target : Target) (canonical : String) : Prop where
  found : t.lookup name = some target
  address : Url.canonical target.url = .ok canonical
  resolved : ∀ s : Sources, s.nicknames = t → Text.contains (trim name) "://" = false →
    s.resolve [name] = (.ok [(Endpoint.standing target.urn canonical).named (trim name)], 0)
  back : ∃ first other, t.byUrl canonical = some (first, other) ∧
    t.lookup first = some other ∧ Url.canonical other.url = .ok canonical

end Nicknames

namespace Sources

/-- **A nickname names its target**, under the name that was asked for. -/
theorem resolve_nickname {s : Sources} {identifier canonical : String} {target : Target}
    (hurl : Text.contains (trim identifier) "://" = false)
    (hknown : s.nicknames.lookup identifier = some target)
    (haddress : Url.canonical target.url = .ok canonical) :
    s.resolve [identifier]
      = (.ok [(Endpoint.standing target.urn canonical).named (trim identifier)], 0) := by
  have hlookup : s.nicknames.lookup (trim identifier) = some target := by
    unfold Nicknames.lookup at hknown ⊢
    rwa [nameKey_trim]
  have hmade : endpointNamed (trim identifier) target
      = .ok ((Endpoint.standing target.urn canonical).named (trim identifier)) := by
    rw [endpointNamed_eq, addressOf_canonical haddress]
    rfl
  have hone : s.resolveOne (trim identifier)
      = resolveOne.liftExcept (endpointNamed (trim identifier) target) := by
    unfold resolveOne
    rw [if_neg (ne_true_of_eq_false hurl), hlookup]
  have hnamed : s.named identifier = endpointNamed (trim identifier) target := by
    have hsettled := settles_pure (s := s) (endpointNamed (trim identifier) target)
    rw [← hone] at hsettled
    exact hsettled.named_eq
  refine Prod.ext ?_ (asked_of_atHand ?_)
  · rw [resolve_singleton, hnamed, hmade]
    rfl
  · unfold Nicknames.isAtHand
    rw [hlookup, Option.isSome_some, Bool.or_true, Bool.true_or]

end Sources

namespace Nicknames

/-- **Every name of a table of proper directives**, in any form, is good for all that. -/
theorem serves_of_mem {ds : List Directive} (hproper : ∀ d ∈ ds, d.Proper) {d : Directive}
    (hd : d ∈ ds) {name : String} (hname : nameKey name = nameKey d.nickname) :
    ∃ target canonical, (ofDirectives ds).Serves name target canonical := by
  obtain ⟨target, hentry, hfound⟩ := exists_entry hd hname
  -- The entry may be of another directive for the same name, which is proper as well.
  obtain ⟨other, hother, hsays⟩ := mem_ofDirectives hentry
  obtain ⟨-, rfl⟩ := Prod.mk.inj hsays
  obtain ⟨canonical, haddress⟩ := (hproper other hother).usable
  have hagain := Url.canonical_again haddress
  obtain ⟨first, known, hfirst⟩ := exists_firstAt hagain ⟨_, hentry, haddress⟩
  have hback := (byUrl_eq_some_iff hagain).2 hfirst
  obtain ⟨before, after, htable, hat, -⟩ := hfirst
  have hmem : (first, known) ∈ ofDirectives ds := by
    rw [htable]
    exact List.mem_append_right before List.mem_cons_self
  refine ⟨_, canonical, hfound, haddress, ?_, first, known, hback, lookup_key hmem, hat⟩
  intro s hs hurl
  exact Sources.resolve_nickname hurl (hs ▸ hfound) haddress

/-- **Directives are read back and stay usable.**  The text of a directive that was read is read as
that directive.  In a table of such directives every nickname has an entry, whatever the case of its
ASCII letters and the blanks around it, and stands for it. -/
theorem directives_stay_usable :
    (∀ (s : String) (d : Directive), Directive.read s = .ok d → Directive.read d.text = .ok d) ∧
    ∀ ds : List Directive, (∀ d ∈ ds, ∃ s, Directive.read s = .ok d) → ∀ d ∈ ds, ∀ name,
      Text.sameFolded (trim name) d.nickname = true →
        ∃ target canonical, (ofDirectives ds).Serves name target canonical := by
  refine ⟨fun s d h => Directive.read_text (Directive.proper_of_read h),
    fun ds hread d hd name hname => ?_⟩
  have hproper : ∀ d ∈ ds, d.Proper := fun d hd =>
    let ⟨_, hs⟩ := hread d hd
    Directive.proper_of_read hs
  refine serves_of_mem hproper hd ?_
  unfold nameKey
  rw [Text.trim_eq_self_iff.2 (hproper d hd).nickname_unpadded]
  exact eq_of_beq hname

/-- A comma and an equals sign in a URL, two names for one address, and a name that is asked for in
capitals. -/
theorem directives_stay_usable_pair :
    Directive.read "Alpha=,HTTP://[::1]:80/a=b,c" = .ok ⟨"Alpha", "", "HTTP://[::1]:80/a=b,c"⟩ ∧
      ∃ target canonical, (ofDirectives [⟨"Beta", "urn:beta", "http://[::1]/a=b,c/"⟩,
        ⟨"Alpha", "", "HTTP://[::1]:80/a=b,c"⟩]).Serves " BETA " target canonical := by
  obtain ⟨hback, hserves⟩ := directives_stay_usable
  have halpha : Directive.read " Alpha = , HTTP://[::1]:80/a=b,c "
      = .ok ⟨"Alpha", "", "HTTP://[::1]:80/a=b,c"⟩ := by decide +kernel
  have hbeta : Directive.read "Beta=urn:beta,http://[::1]/a=b,c/"
      = .ok ⟨"Beta", "urn:beta", "http://[::1]/a=b,c/"⟩ := by decide +kernel
  have hcapitals : Text.sameFolded (trim " BETA ") "Beta" = true := by decide +kernel
  refine ⟨hback _ _ halpha, hserves _ (fun d hd => ?_) _ List.mem_cons_self " BETA " hcapitals⟩
  simp only [List.mem_cons, List.not_mem_nil, or_false] at hd
  rcases hd with rfl | rfl
  · exact ⟨_, hbeta⟩
  · exact ⟨_, halpha⟩

/-- The small letter of `É`, by which a domain name counts as the same, is another nickname. -/
theorem capital_kept_apart :
    Url.Name.mapping? 'É' = some ['é'] ∧
      Directive.read "É=,http://[::1]" = .ok ⟨"É", "", "http://[::1]"⟩ ∧
      (ofDirectives [⟨"É", "", "http://[::1]"⟩]).lookup "É" = some ⟨"", "http://[::1]"⟩ ∧
      (ofDirectives [⟨"É", "", "http://[::1]"⟩]).lookup "é" = none ∧
      (Sources.resolve ⟨ofDirectives [⟨"É", "", "http://[::1]"⟩], [], none⟩ ["é"]).1
        = .error (.unknown "é") := by
  decide +kernel

end Nicknames

end Federation.Directory
