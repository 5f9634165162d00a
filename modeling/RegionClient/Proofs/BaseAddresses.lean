import RegionClient.Proofs.Servers
import RegionClient.Proofs.WrittenUrls

set_option autoImplicit false

/-! # Addresses of regions

The address of a region is completed by a slash, so that the paths of the interface lead beneath it:
none of its segments is lost, whatever it ends in. A connector and a configuration complete it in the
same way, and as the completed address is read from its written form, one who does both completes it
twice. That changes nothing, with one exception: an empty path without structure is completed by the
code of a slash, and only then by a slash (`Url.closed_closed_iff`).

Main statement: `Connector.address_beneath`.
-/

namespace RegionClient

/-! ## Texts of paths -/

/-- A text, completed by a slash if it does not end in one. -/
def Text.slashed (s : String) : String :=
  if s.toList.getLast? = some '/' then s else s ++ "/"

namespace UrlPath

theorem text_append (names added : List String) :
    (segments (names ++ added)).text = (segments names).text ++ (segments added).text := by
  induction names with
  | nil => simp [text, String.join]
  | cons n rest ih =>
    refine String.toList_inj.mp ?_
    rw [List.cons_append, text_cons, ih, String.toList_append, String.toList_append, text_cons,
      List.cons_append, List.append_assoc]

/-- The pieces of a text that is cut at slashes are the segments of that text. -/
theorem text_pieces {isSeparator : Char → Bool} {s : List Char}
    (h : ∀ c ∈ s, isSeparator c = true → c = '/') :
    (segments ((Text.pieces isSeparator s).map String.ofList)).text.toList = '/' :: s := by
  induction s with
  | nil => simp [Text.pieces, text]
  | cons c s ih =>
    have hrest := ih fun d hd => h d (List.mem_cons_of_mem c hd)
    rw [Text.pieces]
    split
    · rename_i hc
      obtain rfl := h c List.mem_cons_self hc
      rw [List.map_cons, text_cons, hrest]
      rfl
    · split
      · rename_i hnil
        exact absurd hnil (Text.pieces_ne_nil isSeparator s)
      · rename_i first rest hfirst
        rw [hfirst, List.map_cons, text_cons] at hrest
        rw [List.map_cons, text_cons, String.toList_ofList, List.cons_append]
        rw [String.toList_ofList] at hrest
        exact congrArg ('/' :: c :: ·) (List.cons.inj hrest).2

/-- Segments end in a slash only if the last of them is empty. -/
theorem getLast?_text {special : Bool} (names : List String) {n : String}
    (hkept : IsKept special n) :
    (segments (names ++ [n])).text.toList.getLast? = some '/' ↔ n = "" := by
  have htext : (segments (names ++ [n])).text.toList =
      (segments names).text.toList ++ '/' :: n.toList := by
    rw [text_append, String.toList_append, text_cons]
    simp [text, String.join]
  rw [htext, List.getLast?_append_cons]
  constructor
  · intro h
    by_contra hne
    obtain ⟨c, more, hmore⟩ := List.exists_cons_of_ne_nil
      (fun hnil => hne (String.toList_eq_nil_iff.mp hnil))
    rw [hmore, List.getLast?_cons_cons, ← hmore] at h
    have hslash := (hkept.plain '/' (List.mem_of_getLast? h)).2
    simp [Url.isSlash] at hslash
  · rintro rfl
    rfl

/-- **Segments are completed by a slash.** -/
theorem closed_segments {special : Bool} {names : List String}
    (h : ∀ n ∈ names, IsKept special n) :
    (segments names).closed.text = Text.slashed (segments names).text := by
  have hadd : (segments (names ++ [""])).text = (segments names).text ++ "/" :=
      text_append names [""]
  rcases List.eq_nil_or_concat names with rfl | ⟨before, n, rfl⟩
  · rfl
  · rw [List.concat_eq_append] at h hadd ⊢
    have hlast := getLast?_text before (h n (by simp))
    rw [closed, Text.slashed, List.getLast?_concat]
    by_cases hn : n = ""
    · rw [if_pos (congrArg some hn), if_pos (hlast.mpr hn)]
    · rw [if_neg (fun heq => hn (Option.some.inj heq)), if_neg (fun heq => hn (hlast.mp heq)), hadd]

theorem segments_ne_plain {names : List String} {s : String} : segments names ≠ plain s := by
  rintro ⟨⟩

/-- A path is completed by a slash where one may be added as it is. -/
theorem closed_plain {s : String} : (plain s).closed.text = Text.slashed s ↔ s ≠ "" := by
  rw [closed, Text.slashed]
  split
  · rename_i hlast
    refine iff_of_true rfl ?_
    rintro rfl
    cases hlast
  · split
    · rename_i hempty
      refine iff_of_false ?_ (not_not.mpr hempty)
      rw [hempty]
      decide
    · rename_i hne
      exact iff_of_true rfl hne

/-- The segments of a path without the empty one that a slash at its end leaves. -/
def filled (names : List String) : List String :=
  if names.getLast? = some "" then names.dropLast else names

theorem closed_filled (names : List String) :
    (segments names).closed = segments (filled names ++ [""]) := by
  rw [closed, filled]
  split
  · rename_i hlast
    obtain ⟨before, rfl⟩ := List.getLast?_eq_some_iff.mp hlast
    rw [List.dropLast_concat]
  · rfl

/-- A path that is completed by a slash needs no second one, unless the first was encoded. -/
theorem closed_closed_iff (p : UrlPath) : p.closed.closed = p.closed ↔ p ≠ plain "" := by
  have hslash {s : String} (h : s.toList.getLast? = some '/') : (plain s).closed = plain s := by
    rw [closed, if_pos h]
  cases p with
  | plain s =>
    have hclosed : (plain s).closed = if s.toList.getLast? = some '/' then plain s
        else if s = "" then plain "%2F" else plain (s ++ "/") := rfl
    rw [hclosed]
    split
    · rename_i hlast
      refine iff_of_true (hslash hlast) ?_
      rintro ⟨⟩
      cases hlast
    · split
      · rename_i hempty
        rw [hempty]
        decide
      · rename_i hne
        refine iff_of_true (hslash ?_) fun heq => hne (plain.inj heq)
        rw [String.toList_append]
        exact List.getLast?_concat
  | segments names =>
    refine iff_of_true ?_ segments_ne_plain
    rw [closed_filled, closed, if_pos List.getLast?_concat]

end UrlPath

/-! ## Resources -/

/-- Whether a text is the path of a resource: its characters may stand in a path as they are, and
none of its segments is dots. -/
def isResource (r : String) : Bool :=
  r.toList.all (fun c => !Percent.inPath c && c != '\\') &&
    (Text.pieces (Url.isSlash true) r.toList).all
      (fun s => !UrlPath.isDot s && !UrlPath.isDoubleDot s)

/-- The parts of the interface are resources. -/
theorem isResource_resources : ∀ r ∈ Controller.resources, isResource r = true := by
  decide +kernel

/-! ## Addresses beneath others -/

namespace Url

/-- **An address beneath another**: on the same server and as the same user, with the segments of
the other and more. Its path is that of the other, completed by a slash, with a text after it. -/
structure IsBeneath (base : Url) (after : String) (url : Url) : Prop where
  scheme : url.scheme = base.scheme
  authority : url.authority = base.authority
  path : url.path.text = Text.slashed base.path.text ++ after
  kept : ∃ names added, base.path = .segments names ∧
    url.path = .segments (UrlPath.filled names ++ added)
  query : url.query = none
  fragment : url.fragment = none

theorem closed_closed_iff (u : Url) : u.closed.closed = u.closed ↔ u.path ≠ .plain "" := by
  rw [← u.path.closed_closed_iff]
  refine ⟨congrArg Url.path, fun h => ?_⟩
  show { u with path := u.path.closed.closed } = { u with path := u.path.closed }
  rw [h]

/-- What is read is completed by a slash, unless the path is an empty one without structure. -/
theorem IsRead.closed_text {domains : DomainForm} {u : Url} (h : IsRead domains u) :
    u.closed.path.text = Text.slashed u.path.text ↔ u.path ≠ .plain "" := by
  obtain ⟨scheme, authority, path, query, fragment⟩ := u
  have hplaced : Placed domains scheme authority path := h.placed
  show path.closed.text = Text.slashed path.text ↔ path ≠ .plain ""
  have hkept {names : List String} (hnames : AreKept scheme names) :
      (UrlPath.segments names).closed.text = Text.slashed (UrlPath.segments names).text ↔
        UrlPath.segments names ≠ .plain "" :=
    iff_of_true (UrlPath.closed_segments hnames.kept) UrlPath.segments_ne_plain
  cases hplaced with
  | server hfile ha hne hnames => exact hkept hnames
  | file hfile hhost hdrive hne hnames => exact hkept hnames
  | rooted hspecial hne hnames => exact hkept hnames
  | plain hspecial hslash hs =>
    refine UrlPath.closed_plain.trans (not_congr ⟨?_, ?_⟩)
    · rintro rfl
      rfl
    · exact UrlPath.plain.inj

end Url

/-! ## Controllers -/

namespace Controller

variable {c : Controller} {u : Url}

/-- The segments of a path of the interface are written as that path. -/
theorem text_apiPath (c : Controller) {r : String} (hr : ∀ d ∈ r.toList, d ≠ '\\') :
    (UrlPath.segments ("api" :: String.ofList c.versionSegment ::
      (Text.pieces (Url.isSlash true) r.toList).map String.ofList)).text = "/" ++ c.apiPath r := by
  have hslash : ∀ d ∈ r.toList, Url.isSlash true d = true → d = '/' := by
    intro d hd h
    simpa [Url.isSlash, hr d hd] using h
  refine String.toList_inj.mp ?_
  rw [UrlPath.text_cons, UrlPath.text_cons, UrlPath.text_pieces hslash, String.toList_append,
    c.apiPath_toList]
  simp

/-- **A resource is beneath the address that was completed.** -/
theorem endpoint_isBeneath {names : List String} (hpath : u.path = .segments names)
    (hnames : ∀ n ∈ names, UrlPath.IsName n) (hweb : u.scheme = "http" ∨ u.scheme = "https")
    (hc : c.address = u.closed) {r : String} (hr : isResource r = true) :
    ∃ url, c.endpoint (c.apiPath r) = .ok url ∧ u.IsBeneath (c.apiPath r) url := by
  obtain ⟨scheme, authority, path, query, fragment⟩ := u
  subst hpath
  have hclosed : c.address.path = .segments (UrlPath.filled names ++ [""]) := by
    rw [hc]
    exact UrlPath.closed_filled names
  have hscheme : c.address.scheme = scheme := congrArg Url.scheme hc
  have hauthority : c.address.authority = authority := congrArg Url.authority hc
  have hspecial : Url.isSpecial c.address.scheme = true := Url.isSpecial_of_web (hscheme ▸ hweb)
  simp only [isResource, Bool.and_eq_true, List.all_eq_true, Bool.not_eq_true', bne_iff_ne] at hr
  obtain ⟨hplain, hdots⟩ := hr
  have hurl := endpoint_apiPath hclosed (Url.ne_file_of_web (hscheme ▸ hweb)) rfl
    (fun d hd => (hplain d hd).1) (by rwa [hspecial])
  rw [List.dropLast_concat] at hurl
  refine ⟨_, hurl, hscheme, hauthority, ?_, ⟨_, _, rfl, rfl⟩, rfl, rfl⟩
  have hadded := text_apiPath c fun d hd => (hplain d hd).2
  have hslashed : Text.slashed (UrlPath.segments names).text =
      (UrlPath.segments (UrlPath.filled names)).text ++ "/" := by
    rw [← UrlPath.closed_segments fun n hn => (hnames n hn).isKept true, UrlPath.closed_filled,
      UrlPath.text_append]
    rfl
  calc (UrlPath.segments (UrlPath.filled names ++ _)).text
      = (UrlPath.segments (UrlPath.filled names)).text ++ ("/" ++ c.apiPath r) := by
        rw [UrlPath.text_append, hspecial, hadded]
    _ = Text.slashed (UrlPath.segments names).text ++ c.apiPath r := by
        rw [hslashed, String.append_assoc]

end Controller

/-! ## Connectors -/

/-- **What an address is normalized to**, by a connector and by a configuration. -/
structure NormalizesTo (domains : DomainForm) (address : String) (url : Url) : Prop where
  connector : ∃ k, Connector.forAddress domains address = .ok k ∧ k.address = url
  configuration : ∀ config : Configuration, config.address = address → config.url domains = .ok url

/-- A connector for an address, directly or through a configuration. -/
def Connector.IsFor (domains : DomainForm) (k : Connector) (address : String) : Prop :=
  Connector.forAddress domains address = .ok k ∨
    ∃ config : Configuration, config.address = address ∧
      Connector.ofConfiguration domains config = .ok k

namespace Connector

variable {domains : DomainForm} {address : String} {u : Url} {k : Connector}

theorem forAddress_ok (h : Url.parse domains address = .ok u) :
    forAddress domains address = .ok ⟨u.closed, .v2_0, .standard, none, domains⟩ := by
  rw [forAddress, h]

theorem normalizesTo (h : Url.parse domains address = .ok u) :
    NormalizesTo domains address u.closed where
  connector := ⟨_, forAddress_ok h, rfl⟩
  configuration := by
    rintro config rfl
    rw [Configuration.url, h]
    rfl

/-- A connector and a configuration know the same address. -/
theorem forAddress_iff {config : Configuration} (hconfig : config.address = address) (url : Url) :
    (∃ k, forAddress domains address = .ok k ∧ k.address = url) ↔ config.url domains = .ok url := by
  cases h : Url.parse domains address with
  | error fault =>
    rw [forAddress, Configuration.url, hconfig, h]
    constructor
    · rintro ⟨k, ⟨⟩, -⟩
    · rintro ⟨⟩
  | ok u =>
    rw [forAddress_ok h, (normalizesTo h).configuration config hconfig]
    constructor
    · rintro ⟨k, ⟨⟩, rfl⟩
      rfl
    · rintro ⟨⟩
      exact ⟨_, rfl, rfl⟩

/-- An address that was completed is completed again. -/
theorem normalizesTo_closed (hdomains : domains.Lawful) (h : Url.parse domains address = .ok u) :
    NormalizesTo domains u.closed.text u.closed.closed :=
  normalizesTo (Url.parse_closed (Url.parse_isRead hdomains h))

/-- A connector for a configuration completes the address twice. -/
theorem ofConfiguration_address (hdomains : domains.Lawful) (h : Url.parse domains address = .ok u)
    {config : Configuration} (hconfig : config.address = address)
    (hk : ofConfiguration domains config = .ok k) : k.address = u.closed.closed := by
  have hurl := (normalizesTo h).configuration config hconfig
  have hconnector := forAddress_ok (Url.parse_closed (Url.parse_isRead hdomains h))
  simp only [ofConfiguration, hurl, hconnector, bind, Except.bind] at hk
  split at hk
  · cases hk
  · split at hk
    · cases hk
    · obtain rfl := Except.ok.inj hk
      rfl

theorem IsFor.address_eq (hdomains : domains.Lawful) (h : Url.parse domains address = .ok u)
    (hpath : u.path ≠ .plain "") (hk : k.IsFor domains address) : k.address = u.closed := by
  rcases hk with hk | ⟨config, hconfig, hk⟩
  · rw [forAddress_ok h] at hk
    rw [← Except.ok.inj hk]
  · rw [ofConfiguration_address hdomains h hconfig hk]
    exact u.closed_closed_iff.mpr hpath

/-- **An address is completed by a slash, and the paths of the interface lead beneath it.** A
connector and a configuration complete it in the same way; to complete it twice, as a connector for
a configuration does, is to do so once unless the path is an empty one without structure. -/
theorem address_beneath (hdomains : domains.Lawful) (address : String) :
    (∀ config : Configuration, config.address = address → ∀ url,
      (∃ k, forAddress domains address = .ok k ∧ k.address = url) ↔ config.url domains = .ok url) ∧
    ∀ u, Url.parse domains address = .ok u →
      NormalizesTo domains address u.closed ∧
      NormalizesTo domains u.closed.text u.closed.closed ∧
      (∀ config : Configuration, config.address = address → ∀ k,
        ofConfiguration domains config = .ok k → k.address = u.closed.closed) ∧
      (u.closed.closed = u.closed ↔ u.path ≠ .plain "") ∧
      (u.closed.path.text = Text.slashed u.path.text ↔ u.path ≠ .plain "") ∧
      (∀ r ∈ Controller.resources, isResource r = true) ∧
      ((u.scheme = "http" ∨ u.scheme = "https") → ∀ k : Connector, k.IsFor domains address →
        ∀ c : Controller, c.address = k.address → ∀ r, isResource r = true →
          ∃ url, c.endpoint (c.apiPath r) = .ok url ∧
            u.IsBeneath ("api/" ++ Numeral.ofNat c.version.major.toNat ++ "." ++
              Numeral.ofNat c.version.minor.toNat ++ "/" ++ r) url) := by
  refine ⟨fun config hconfig => forAddress_iff hconfig, fun u h => ?_⟩
  refine ⟨normalizesTo h, normalizesTo_closed hdomains h,
    fun config hconfig k hk => ofConfiguration_address hdomains h hconfig hk, u.closed_closed_iff,
    (Url.parse_isRead hdomains h).closed_text, isResource_resources, fun hweb k hk c hc r hr => ?_⟩
  obtain ⟨names, hpath, hnames⟩ :=
    Url.parse_names h (Url.isSpecial_of_web hweb) (Url.ne_file_of_web hweb)
  have hne : u.path ≠ .plain "" := by
    rw [hpath]
    exact UrlPath.segments_ne_plain
  exact Controller.endpoint_isBeneath hpath hnames hweb (hc.trans (hk.address_eq hdomains h hne)) hr

/-- Zones are beneath an address with a query that does not end in a slash. -/
theorem address_beneath_query :
    let u : Url := ⟨"http", some ⟨"", "", .name "maas.test", none⟩, .segments ["MAAS"], some "a", none⟩
    let k : Connector := ⟨u.closed, .v2_0, .standard, none, .plain⟩
    DomainForm.plain.Lawful ∧ Url.parse .plain "http://maas.test/MAAS?a" = .ok u ∧
      k.IsFor .plain "http://maas.test/MAAS?a" ∧
      ∀ transport, ∃ url,
        (k.controller transport).endpoint ((k.controller transport).apiPath "zones/") = .ok url ∧
          u.IsBeneath "api/2.0/zones/" url ∧ url.path.text = "/MAAS/api/2.0/zones/" := by
  intro u k
  have hlawful := DomainForm.lawful_plain
  have hparse : Url.parse .plain "http://maas.test/MAAS?a" = .ok u := by decide +kernel
  have hk : k.IsFor .plain "http://maas.test/MAAS?a" := .inl (forAddress_ok hparse)
  refine ⟨hlawful, hparse, hk, fun transport => ?_⟩
  obtain ⟨-, -, -, -, -, -, hbeneath⟩ :=
    (address_beneath hlawful "http://maas.test/MAAS?a").2 u hparse
  obtain ⟨url, hurl, h⟩ :=
    hbeneath (.inl rfl) k hk (k.controller transport) rfl "zones/" (by decide +kernel)
  have hafter : "api/" ++ Numeral.ofNat Version.v2_0.major.toNat ++ "." ++
      Numeral.ofNat Version.v2_0.minor.toNat ++ "/" ++ "zones/" = "api/2.0/zones/" := by
    decide +kernel
  rw [show (k.controller transport).version = Version.v2_0 from rfl, hafter] at h
  have htext : Text.slashed u.path.text ++ "api/2.0/zones/" = "/MAAS/api/2.0/zones/" := by
    decide +kernel
  exact ⟨url, hurl, h, h.path.trans htext⟩

/-- An address with nothing after its scheme is completed by the code of a slash, and only the second
time by a slash. -/
theorem address_completed_twice :
    let once : Url := ⟨"a", none, .plain "%2F", none, none⟩
    let twice : Url := ⟨"a", none, .plain "%2F/", none, none⟩
    NormalizesTo .plain "a:" once ∧ once.text = "a:%2F" ∧ NormalizesTo .plain "a:%2F" twice ∧
      once ≠ twice := by
  intro once twice
  have hparse : Url.parse .plain "a:" = .ok ⟨"a", none, .plain "", none, none⟩ := by decide +kernel
  have honce : Url.closed ⟨"a", none, .plain "", none, none⟩ = once := by decide +kernel
  have htwice : once.closed = twice := by decide +kernel
  have htext : once.text = "a:%2F" := by decide +kernel
  have hfirst := normalizesTo hparse
  have hsecond := normalizesTo_closed DomainForm.lawful_plain hparse
  rw [honce] at hfirst hsecond
  rw [htext, htwice] at hsecond
  exact ⟨hfirst, htext, hsecond, by decide +kernel⟩

end Connector

end RegionClient
