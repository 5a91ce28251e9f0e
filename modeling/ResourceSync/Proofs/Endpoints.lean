import Mathlib.Data.List.Basic
import ResourceSync.Remote.Client

/-! Where a client finds an entity: below the collection, in a segment that its identifier can be
read from - unless the identifier has tabs or line ends in it or is a dot segment. -/
namespace ResourceSync

namespace Percent
variable {escaped : EscapeSet} {c : Char}

theorem hexValue?_upperHex : ∀ n < 16, Text.hexValue? (upperHex n) = some n := by decide

theorem decode_octet (b : UInt8) (r : List Char) : decode (encodeOctet b ++ r) = b :: decode r := by
  have hb : b.toNat < 256 := b.toNat_lt
  have hhigh := hexValue?_upperHex (b.toNat / 16) (by omega)
  have hlow := hexValue?_upperHex (b.toNat % 16) (by omega)
  have hvalue : b.toNat / 16 * 16 + b.toNat % 16 = b.toNat := by omega
  change decode ('%' :: upperHex (b.toNat / 16) :: upperHex (b.toNat % 16) :: r) = _
  rw [decode, hhigh, hlow]
  dsimp only
  rw [hvalue, UInt8.ofNat_toNat]

theorem decode_octets (bs : List UInt8) (r : List Char) :
    decode (bs.flatMap encodeOctet ++ r) = bs ++ decode r := by
  induction bs with
  | nil => rfl
  | cons b bs ih => rw [List.flatMap_cons, List.append_assoc, decode_octet, ih, List.cons_append]

theorem decode_cons_of_ne (h : c ≠ '%') (r : List Char) :
    decode (c :: r) = String.utf8EncodeChar c ++ decode r := by
  rw [decode]
  rintro _ _ _ rfl
  exact absurd rfl h

theorem decode_char (h : escaped '%' = true) (c : Char) (r : List Char) :
    decode (encodeChar escaped c ++ r) = String.utf8EncodeChar c ++ decode r := by
  unfold encodeChar
  split
  · next hplain =>
    refine decode_cons_of_ne ?_ r
    rintro rfl
    rw [h] at hplain
    exact absurd hplain (by decide)
  · exact decode_octets _ r

/-- What is written in percent notation is read back, if percent signs are written so too. -/
theorem decode_encode (h : escaped '%' = true) (s : List Char) :
    decode (encode escaped s) = s.flatMap String.utf8EncodeChar := by
  induction s with
  | nil => rfl
  | cons c s ih =>
    change decode (encodeChar escaped c ++ encode escaped s) = _
    rw [decode_char h, ih, List.flatMap_cons]

theorem eq_of_octets_eq {s t : List Char}
    (h : s.flatMap String.utf8EncodeChar = t.flatMap String.utf8EncodeChar) : s = t := by
  have hbytes : (String.ofList s).toByteArray = (String.ofList t).toByteArray :=
    congrArg List.toByteArray h
  exact String.ofList_inj.1 (String.toByteArray_inj.1 hbytes)

theorem encode_inj (h : escaped '%' = true) {s t : List Char} :
    encode escaped s = encode escaped t ↔ s = t := by
  constructor
  · intro heq
    have hdecoded := congrArg decode heq
    rw [decode_encode h, decode_encode h] at hdecoded
    exact eq_of_octets_eq hdecoded
  · rintro rfl
    rfl

/-- A character that is escaped stands in no text in percent notation, unless notation itself uses
it. -/
theorem not_mem_encode (h : escaped c = true) (hc : c ≠ '%') (hhex : ∀ n < 16, c ≠ upperHex n)
    (s : List Char) : c ∉ encode escaped s := by
  intro hmem
  obtain ⟨d, -, hd⟩ := List.mem_flatMap.1 hmem
  unfold encodeChar at hd
  split at hd
  · next hplain =>
    obtain rfl := List.mem_singleton.1 hd
    rw [h] at hplain
    simp at hplain
  · obtain ⟨b, -, hb⟩ := List.mem_flatMap.1 hd
    have hlt : b.toNat < 256 := b.toNat_lt
    rcases List.mem_cons.1 hb with h | hb
    · exact hc h
    · rcases List.mem_cons.1 hb with h | hb
      · exact hhex _ (by omega) h
      · exact hhex _ (by omega) (List.mem_singleton.1 hb)

end Percent

namespace Url
variable {scheme s t : String} {ss : List String}

/-- A segment without the characters that are left out of it. -/
def withoutBreaks (s : String) : String :=
  String.ofList (s.toList.filter fun c => c != '\t' && c != '\n' && c != '\r')

theorem toList_segmentText (h : isSpecial scheme = true) (s : String) :
    (segmentText scheme s).toList =
      Percent.encode Percent.specialPathSegment (withoutBreaks s).toList := by
  rw [segmentText, if_pos h, withoutBreaks, String.toList_ofList, String.toList_ofList]

theorem segmentText_inj (h : isSpecial scheme = true) :
    segmentText scheme s = segmentText scheme t ↔ withoutBreaks s = withoutBreaks t := by
  rw [← String.toList_inj, toList_segmentText h, toList_segmentText h,
    Percent.encode_inj rfl, String.toList_inj]

/-- A text that needs no notation is the segment of the texts that differ from it by breaks only. -/
theorem segmentText_eq_iff (h : isSpecial scheme = true) (ht : segmentText scheme t = t)
    (ht' : withoutBreaks t = t) : segmentText scheme s = t ↔ withoutBreaks s = t := by
  rw [← ht, segmentText_inj h, ht, ht']

theorem segmentText_dot (h : isSpecial scheme = true) : segmentText scheme "." = "." := by
  rw [← String.toList_inj, toList_segmentText h]
  decide

theorem segmentText_dots (h : isSpecial scheme = true) : segmentText scheme ".." = ".." := by
  rw [← String.toList_inj, toList_segmentText h]
  decide

theorem segmentText_eq_empty_iff (h : isSpecial scheme = true) :
    segmentText scheme s = "" ↔ withoutBreaks s = "" := by
  have hnone : segmentText scheme "" = "" := by
    rw [← String.toList_inj, toList_segmentText h]
    decide
  exact segmentText_eq_iff h hnone (by decide)

/-- A segment that is no dot segment, with or without its breaks. -/
def IsOrdinary (s : String) : Prop := withoutBreaks s ≠ "." ∧ withoutBreaks s ≠ ".."

instance : Decidable (IsOrdinary s) := inferInstanceAs (Decidable (_ ∧ _))

theorem appendSegment_of_isOrdinary (h : isSpecial scheme = true) (hs : IsOrdinary s) :
    appendSegment scheme ss s = (if ss = [""] then [] else ss) ++ [segmentText scheme s] := by
  have hdot : segmentText scheme s ≠ "." := fun heq =>
    hs.1 ((segmentText_eq_iff h (segmentText_dot h) (by decide)).1 heq)
  have hdots : segmentText scheme s ≠ ".." := fun heq =>
    hs.2 ((segmentText_eq_iff h (segmentText_dots h) (by decide)).1 heq)
  have hself : ¬ (s = "." ∨ s = "..") := by
    rintro (rfl | rfl)
    · exact hs.1 (by decide)
    · exact hs.2 (by decide)
  rw [appendSegment, if_neg hself]
  dsimp only
  generalize (if ss = [""] then [] else ss) = start
  split
  · next heq => exact absurd heq hdot
  · next heq => exact absurd heq hdots
  · rfl

/-- A dot segment in disguise ends the path with a slash, at the same place or one above. -/
theorem appendSegment_of_disguised (h : isSpecial scheme = true) (hss : ss ≠ [""])
    (hself : ¬ (s = "." ∨ s = "..")) (hs : ¬ IsOrdinary s) :
    ∃ above, above <+: ss ∧ appendSegment scheme ss s = above ++ [""] := by
  rw [appendSegment, if_neg hself, if_neg hss]
  by_cases hdot : withoutBreaks s = "."
  · rw [(segmentText_eq_iff h (segmentText_dot h) (by decide)).2 hdot]
    exact ⟨ss, List.prefix_refl ss, rfl⟩
  · have hdots : withoutBreaks s = ".." := by
      by_contra hdots
      exact hs ⟨hdot, hdots⟩
    rw [(segmentText_eq_iff h (segmentText_dots h) (by decide)).2 hdots]
    exact ⟨ss.dropLast, List.dropLast_prefix ss, rfl⟩

end Url

namespace Path
variable {ss above : List String} {s : String}

theorem text_concat (ss : List String) (s : String) :
    text (.segments (ss ++ [s])) = text (.segments ss) ++ "/" ++ s := by
  rw [← String.toList_inj]
  simp [text, String.toList_join]

theorem length_text_le (h : above <+: ss) :
    (text (.segments above)).length ≤ (text (.segments ss)).length := by
  obtain ⟨below, rfl⟩ := h
  simp [text, String.join_append]

theorem length_slash (h s : String) : (h ++ "/" ++ s).length = h.length + 1 + s.length := by
  rw [String.length_append, String.length_append]
  rfl

theorem slash_inj {h t : String} : h ++ "/" ++ s = h ++ "/" ++ t ↔ s = t := by
  simp [← String.toList_inj]

theorem slash_ne (h s : String) : h ++ "/" ++ s ≠ h := by
  intro heq
  have hlength := congrArg String.length heq
  rw [length_slash] at hlength
  omega

/-- A path that ends with a slash further up ends with one at the same place. -/
theorem eq_empty_of_above (h : above <+: ss)
    (heq : text (.segments above) ++ "/" ++ "" = text (.segments ss) ++ "/" ++ s) : s = "" := by
  have hle := length_text_le h
  have hlength := congrArg String.length heq
  rw [length_slash, length_slash, String.length_empty] at hlength
  rw [← String.length_eq_zero_iff]
  omega

end Path

/-- A URL is that of a collection with one more segment, from which an identifier is read. -/
structure IsBelow (collection url : Url) (id : String) : Prop where
  elsewhere : { url with path := collection.path } = collection
  segment : ∃ s, url.pathText = collection.pathText ++ "/" ++ s ∧ '/' ∉ s.toList ∧
    (Percent.decode s.toList).toByteArray = id.toUTF8

namespace ManagementClient
variable {c : ManagementClient} {k : Kind} {id id' : String}

/-- The endpoint of an identifier is its own: different from that of another one and from that of the
collection, below which it lies. -/
def Separates (c : ManagementClient) (collection id id' : String) : Prop :=
  ∃ home url url', c.endpoint collection none = .ok home ∧ c.endpoint collection (some id) = .ok url ∧
    c.endpoint collection (some id') = .ok url' ∧ url.pathText ≠ url'.pathText ∧
    url.pathText ≠ home.pathText ∧ IsBelow home url id

theorem isSpecial_of_isWeb {url : Url} (h : url.isWeb = true) : Url.isSpecial url.scheme = true := by
  rcases (by simpa [Url.isWeb] using h : url.scheme = "http" ∨ url.scheme = "https") with h | h <;>
    rw [h] <;> decide

/-- The last segment of a collection. -/
def leaf : Kind → String
  | .alert => "alerts"
  | .ruleGroup => "rule-groups"
  | .recordingRuleGroupSet => "recording-rule-group-sets"
  | .outboundWebhook => "outbound-webhooks"
  | .apiKey => "api-keys"
  | .team => "teams"

theorem segments_collection (k : Kind) :
    (((Text.splitOn '/' k.collection.toList).filter fun s => !s.isEmpty).map String.ofList) =
      ["v1", leaf k] := by
  cases k <;> decide

theorem isOrdinary_leaf (k : Kind) : Url.IsOrdinary (leaf k) ∧ Url.withoutBreaks (leaf k) ≠ "" := by
  cases k <;> decide

/-- The path of a collection ends in two segments, whatever the path of the platform. -/
theorem exists_collection (hweb : c.baseUrl.isWeb = true) (hbase : c.baseUrl.isBare = false)
    (k : Kind) : ∃ ss, ss ≠ [""] ∧ ∀ id, c.endpoint k.collection id =
      .ok { c.baseUrl with
        path := .segments (id.toList.foldl (Url.appendSegment c.baseUrl.scheme) ss) } := by
  have hspecial := isSpecial_of_isWeb hweb
  cases hpath : c.baseUrl.path with
  | bare text =>
    rw [Url.isBare, hpath] at hbase
    cases hbase
  | segments ss =>
    refine ⟨["v1", leaf k].foldl (Url.appendSegment c.baseUrl.scheme) (Url.dropEmptyEnd ss), ?_, ?_⟩
    · obtain ⟨hordinary, hne⟩ := isOrdinary_leaf k
      change Url.appendSegment _ (Url.appendSegment _ _ "v1") (leaf k) ≠ [""]
      rw [Url.appendSegment_of_isOrdinary hspecial hordinary]
      intro hempty
      rcases List.append_eq_singleton_iff.1 hempty with ⟨-, hlast⟩ | ⟨-, hlast⟩
      · exact hne ((Url.segmentText_eq_empty_iff hspecial).1 (List.singleton_inj.1 hlast))
      · cases hlast
    · intro id
      rw [endpoint, segments_collection, Url.extend?, hpath]
      dsimp only
      rw [List.foldl_append]

/-- The path of an identifier below the segments of a collection. -/
def place (scheme : String) (ss : List String) (id : String) : String :=
  Path.text (.segments (Url.appendSegment scheme ss id))

/-- An identifier that its endpoint can be read from. -/
def IsPlain (id : String) : Prop := Url.withoutBreaks id = id ∧ id ≠ "." ∧ id ≠ ".."

instance : Decidable (IsPlain id) := inferInstanceAs (Decidable (_ ∧ _))

theorem IsPlain.isOrdinary (h : IsPlain id) : Url.IsOrdinary id := by
  unfold Url.IsOrdinary
  rw [h.1]
  exact h.2

theorem octets_toList (id : String) :
    (id.toList.flatMap String.utf8EncodeChar).toByteArray = id.toUTF8 := by
  conv => rhs; rw [← String.ofList_toList (s := id)]
  rfl

section place
variable {scheme s : String} {ss : List String} (hspecial : Url.isSpecial scheme = true)
include hspecial

theorem decode_segmentText (id : String) :
    (Percent.decode (Url.segmentText scheme id).toList).toByteArray =
      (Url.withoutBreaks id).toUTF8 := by
  rw [Url.toList_segmentText hspecial, Percent.decode_encode rfl, octets_toList]

variable (hss : ss ≠ [""])
include hss

/-- An identifier is passed over, ends the path with a slash, or becomes a segment. -/
theorem place_cases (id : String) :
    (id = "." ∨ id = "..") ∧ place scheme ss id = Path.text (.segments ss) ∨
    ¬ (id = "." ∨ id = "..") ∧ ¬ Url.IsOrdinary id ∧
      (∃ above, above <+: ss ∧ place scheme ss id = Path.text (.segments above) ++ "/" ++ "") ∨
    Url.IsOrdinary id ∧
      place scheme ss id = Path.text (.segments ss) ++ "/" ++ Url.segmentText scheme id := by
  unfold place
  by_cases hself : id = "." ∨ id = ".."
  · exact .inl ⟨hself, by rw [Url.appendSegment, if_pos hself]⟩
  · by_cases hordinary : Url.IsOrdinary id
    · refine .inr (.inr ⟨hordinary, ?_⟩)
      rw [Url.appendSegment_of_isOrdinary hspecial hordinary, if_neg hss, Path.text_concat]
    · obtain ⟨above, habove, hplace⟩ :=
        Url.appendSegment_of_disguised hspecial hss hself hordinary
      exact .inr (.inl ⟨hself, hordinary, above, habove, by rw [hplace, Path.text_concat]⟩)

theorem place_of_isPlain (h : IsPlain id) :
    place scheme ss id = Path.text (.segments ss) ++ "/" ++ Url.segmentText scheme id := by
  unfold place
  rw [Url.appendSegment_of_isOrdinary hspecial h.isOrdinary, if_neg hss, Path.text_concat]

/-- Only a plain identifier is read from a place below the collection. -/
theorem isPlain_of_place (hid : id ≠ "")
    (hplace : place scheme ss id = Path.text (.segments ss) ++ "/" ++ s)
    (hread : (Percent.decode s.toList).toByteArray = id.toUTF8) : IsPlain id := by
  rcases place_cases hspecial hss id with ⟨-, h⟩ | ⟨-, -, above, habove, h⟩ | ⟨hordinary, h⟩
  · rw [h] at hplace
    exact absurd hplace.symm (Path.slash_ne _ _)
  · rw [h] at hplace
    obtain rfl := Path.eq_empty_of_above habove hplace
    exact absurd (String.toByteArray_inj.1 hread).symm hid
  · rw [h, Path.slash_inj] at hplace
    rw [← hplace, decode_segmentText hspecial] at hread
    have hbreaks : Url.withoutBreaks id = id := String.toByteArray_inj.1 hread
    unfold Url.IsOrdinary at hordinary
    rw [hbreaks] at hordinary
    exact ⟨hbreaks, hordinary⟩

/-- A plain identifier shares its place with those that differ from it by breaks only. -/
theorem place_eq_iff (h : IsPlain id) (hid : id ≠ "") :
    place scheme ss id = place scheme ss id' ↔ Url.withoutBreaks id' = id := by
  rw [place_of_isPlain hspecial hss h]
  constructor
  · intro heq
    rcases place_cases hspecial hss id' with ⟨-, h'⟩ | ⟨-, -, above, habove, h'⟩ | ⟨-, h'⟩ <;>
      rw [h'] at heq
    · exact absurd heq (Path.slash_ne _ _)
    · have hempty := Path.eq_empty_of_above habove heq.symm
      rw [Url.segmentText_eq_empty_iff hspecial, h.1] at hempty
      exact absurd hempty hid
    · rw [Path.slash_inj, Url.segmentText_inj hspecial, h.1] at heq
      exact heq.symm
  · intro hbreaks
    have hordinary : Url.IsOrdinary id' := by
      unfold Url.IsOrdinary
      rw [hbreaks]
      exact h.2
    unfold place
    rw [Url.appendSegment_of_isOrdinary hspecial hordinary, if_neg hss, Path.text_concat,
      Path.slash_inj, Url.segmentText_inj hspecial, h.1, hbreaks]

end place

/-- The endpoint of an identifier separates it from another one exactly if it is plain and the other
one is not the same identifier with breaks in it. -/
theorem separates_iff (hweb : c.baseUrl.isWeb = true) (hbase : c.baseUrl.isBare = false)
    (hid : id ≠ "") : c.Separates k.collection id id' ↔
      IsPlain id ∧ Url.withoutBreaks id' ≠ id := by
  obtain ⟨ss, hss, hendpoint⟩ := exists_collection hweb hbase k
  have hspecial := isSpecial_of_isWeb hweb
  have hescaped : ∀ t, '/' ∉ (Url.segmentText c.baseUrl.scheme t).toList := by
    intro t
    rw [Url.toList_segmentText hspecial]
    exact Percent.not_mem_encode rfl (by decide) (by decide) _
  constructor
  · rintro ⟨home, url, url', hhome, hurl, hurl', hother, -, hbelow⟩
    rw [hendpoint] at hhome hurl hurl'
    cases hhome
    cases hurl
    cases hurl'
    obtain ⟨s, hplace, -, hread⟩ := hbelow.segment
    have hplain : IsPlain id := isPlain_of_place hspecial hss hid hplace hread
    exact ⟨hplain, fun hbreaks => hother ((place_eq_iff hspecial hss hplain hid).2 hbreaks)⟩
  · rintro ⟨hplain, hbreaks⟩
    have hplace := place_of_isPlain hspecial hss hplain
    refine ⟨_, _, _, hendpoint none, hendpoint (some id), hendpoint (some id'), ?_, ?_, rfl, ?_⟩
    · exact fun hother => hbreaks ((place_eq_iff hspecial hss hplain hid).1 hother)
    · intro heq
      exact Path.slash_ne _ _ (hplace.symm.trans heq)
    · refine ⟨_, hplace, hescaped id, ?_⟩
      rw [decode_segmentText hspecial, hplain.1]

end ManagementClient

/-- A client whose platform has a path of its own. -/
def Sample.hosted : ManagementClient where
  baseUrl :=
    ⟨"https", some ⟨"", "", .domain "api.example.com", none⟩, .segments ["eu", ""], none, none⟩
  apiKey := "key"
  retry := .standard

/-- A slash in an identifier leads nowhere else. -/
theorem parted_team_has_an_endpoint :
    Sample.hosted.Separates Kind.team.collection "a/b" "a" :=
  (ManagementClient.separates_iff (k := .team) rfl rfl (by decide)).2 ⟨by decide, by decide⟩

/-- Two dots stand for all teams, and a tab makes no difference. -/
theorem dotted_team_is_all_teams :
    ¬ Sample.hosted.Separates Kind.team.collection ".." "t-1" ∧
      ¬ Sample.hosted.Separates Kind.team.collection "ab" "a\tb" := by
  constructor
  · rintro ⟨home, url, _, hhome, hurl, -, -, hne, -⟩
    have hsame : Sample.hosted.endpoint Kind.team.collection (some "..") =
        Sample.hosted.endpoint Kind.team.collection none := rfl
    rw [hsame, hhome] at hurl
    cases hurl
    exact hne rfl
  · rintro ⟨_, url, url', -, hurl, hurl', hne, -⟩
    have hsame : Sample.hosted.endpoint Kind.team.collection (some "a\tb") =
        Sample.hosted.endpoint Kind.team.collection (some "ab") := rfl
    rw [hsame, hurl] at hurl'
    cases hurl'
    exact hne rfl

end ResourceSync
