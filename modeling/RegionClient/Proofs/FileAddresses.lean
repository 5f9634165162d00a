import RegionClient.Proofs.AddedSegments
import RegionClient.Proofs.Servers

set_option autoImplicit false

/-! # Where files are asked for

A file is asked for at the address of all files with one more segment that stands for its name, so
that no two files are asked for at one address. This fails for three reasons only: a name of one or
two dots adds no segment, tabs and line breaks do not count in a segment, and if the address of the
controller has a path that begins with two slashes, the path of a file is read as one on another
server.

Main statement: `getFile_exact`.
-/

namespace RegionClient.Controller

variable {c : Controller} {names : List String} {filename other : String} {url url' : Url}

/-! ## Addresses of files -/

/-- Where a file is asked for. -/
def fileAddress (c : Controller) (filename : String) : Except Error Url :=
  c.filePath filename >>= c.endpoint

theorem fileAddress_of_path {path : String} (h : c.filePath filename = .ok path) :
    c.fileAddress filename = c.endpoint path := by
  rw [fileAddress, h]
  rfl

/-- **The address of exactly the file with a name**: that of all files, whose path ends in a slash,
with one more segment that stands for the name, and a slash. -/
def IsFileAddress (c : Controller) (filename : String) (url : Url) : Prop :=
  ∃ all before segment, c.endpoint c.filesPath = .ok all ∧
    all.path = .segments (before ++ [""]) ∧ UrlPath.IsName segment ∧
    Percent.decodeText? segment = some filename ∧
    url = { all with path := .segments (before ++ [segment, ""]) }

/-- Such an address is not that of all files. -/
theorem IsFileAddress.path_ne (h : c.IsFileAddress filename url) {all : Url}
    (hall : c.endpoint c.filesPath = .ok all) : url.path ≠ all.path := by
  obtain ⟨all', before, segment, hall', hpath, -, -, rfl⟩ := h
  obtain rfl := Except.ok.inj (hall'.symm.trans hall)
  rw [hpath]
  intro heq
  have hlength := congrArg List.length (UrlPath.segments.inj heq)
  simp at hlength

/-- **The path of such an address tells the name.** -/
theorem IsFileAddress.name_eq (h : c.IsFileAddress filename url)
    (h' : c.IsFileAddress other url') (hpath : url.path = url'.path) : filename = other := by
  obtain ⟨all, before, segment, hall, hbefore, -, hdecode, rfl⟩ := h
  obtain ⟨all', before', segment', hall', hbefore', -, hdecode', rfl⟩ := h'
  obtain rfl := Except.ok.inj (hall.symm.trans hall')
  obtain rfl := List.append_cancel_right (UrlPath.segments.inj (hbefore.symm.trans hbefore'))
  have hsegment := List.append_cancel_left (UrlPath.segments.inj hpath)
  obtain rfl : segment = segment' := (List.cons.inj hsegment).1
  exact Option.some.inj (hdecode.symm.trans hdecode')

/-! ## Where a file is asked for -/

section

variable (hpath : c.address.path = .segments names)
  (hweb : c.address.scheme = "http" ∨ c.address.scheme = "https")
  (hnames : ∀ n ∈ names, UrlPath.IsName n)

include hpath hweb in
theorem isFileAddress_iff : c.IsFileAddress filename url ↔ ∃ segment, UrlPath.IsName segment ∧
    Percent.decodeText? segment = some filename ∧
    url = ⟨c.address.scheme, c.address.authority,
      .segments (c.filesNames names ++ [segment, ""]), none, none⟩ := by
  have hall := endpoint_filesPath hpath (Url.ne_file_of_web hweb)
  constructor
  · rintro ⟨all, before, segment, hall', hbefore, hname, hdecode, rfl⟩
    obtain rfl := Except.ok.inj (hall.symm.trans hall')
    obtain rfl := List.append_cancel_right (UrlPath.segments.inj hbefore)
    exact ⟨segment, hname, hdecode, rfl⟩
  · rintro ⟨segment, hname, hdecode, rfl⟩
    exact ⟨_, _, segment, hall, rfl, hname, hdecode, rfl⟩

include hnames in
theorem isName_filesNames : ∀ n ∈ c.filesNames names, UrlPath.IsName n := by
  have hversion : UrlPath.IsName (String.ofList c.versionSegment) := by
    refine ⟨?_, ?_, ?_⟩
    · rw [String.toList_ofList]
      exact fun d hd => c.isPlain_versionSegment hd
    · rw [String.toList_ofList]
      exact c.isDot_versionSegment.1
    · rw [String.toList_ofList]
      exact c.isDot_versionSegment.2
  have hword : UrlPath.IsName "api" ∧ UrlPath.IsName "files" :=
    ⟨⟨isPlain_api, rfl, rfl⟩, ⟨isPlain_files, rfl, rfl⟩⟩
  simp only [filesNames, List.forall_mem_append, List.forall_mem_cons, List.not_mem_nil,
    false_imp_iff, implies_true, and_true]
  exact ⟨fun n hn => hnames n ((List.dropLast_sublist names).subset hn), hword.1, hversion, hword.2⟩

include hpath hweb hnames in
/-- A file is asked for where the names lead beneath which files are, with its name added to them
and a slash at the end. The first of them is still that of the address, if it has two. -/
theorem fileAddress_eq (filename : String) : ∃ first second rest,
    ((first = "api" ∧ names.length < 2) ∨ ∃ n more, names = first :: n :: more) ∧
    UrlPath.Added (c.filesNames names) filename (first :: second :: rest) ∧
    (∀ n ∈ first :: second :: (rest ++ [""]), UrlPath.IsName n) ∧
    c.fileAddress filename =
      c.endpoint (UrlPath.segments (first :: second :: (rest ++ [""]))).text := by
  obtain ⟨first, second, rest, hfiles, hfirst⟩ := c.filesNames_eq names
  obtain ⟨second', rest', hpush⟩ := UrlPath.push_cons true first second rest filename
  have hadded : UrlPath.Added (c.filesNames names) filename (first :: second' :: rest') := by
    rw [← hpush, ← hfiles]
    refine UrlPath.push_added ?_ filename
    rw [hfiles]
    exact fun heq => nomatch (List.cons.inj heq).2
  have hslash : UrlPath.push true (first :: second' :: rest') "" =
      first :: second' :: (rest' ++ [""]) :=
    UrlPath.push_empty fun heq => nomatch (List.cons.inj heq).2
  refine ⟨first, second', rest', hfirst, hadded, ?_, ?_⟩
  · exact UrlPath.isName_append (hadded.names (isName_filesNames hnames)) UrlPath.isName_empty
  · rw [fileAddress_of_path (filePath_eq hpath (Url.ne_file_of_web hweb) filename),
      Url.isSpecial_of_web hweb, hfiles, hpush, hslash]

include hpath hweb hnames in
/-- Unless the address begins with two slashes, what is added is added to its path. -/
theorem fileAddress_home (hstart : ∀ n more, names ≠ "" :: n :: more) (filename : String) :
    ∃ pushed, UrlPath.Added (c.filesNames names) filename pushed ∧
      c.fileAddress filename = .ok ⟨c.address.scheme, c.address.authority,
        .segments (pushed ++ [""]), none, none⟩ := by
  obtain ⟨first, second, rest, hfirst, hadded, hall, haddress⟩ :=
    fileAddress_eq hpath hweb hnames filename
  have hne : first ≠ "" := by
    rcases hfirst with ⟨rfl, -⟩ | ⟨n, more, rfl⟩
    · decide
    · rintro rfl
      exact hstart n more rfl
  refine ⟨first :: second :: rest, hadded, ?_⟩
  rw [haddress, endpoint_eq_ok.mpr (Url.join_names hpath (Url.ne_file_of_web hweb) hne hall)]
  rfl

include hpath hweb hnames in
/-- **If the address begins with two slashes, no file is asked for at its address**, as two names
are missing there. -/
theorem not_isFileAddress_of_slashes {n : String} {more : List String}
    (hstart : names = "" :: n :: more) (h : c.fileAddress filename = .ok url) :
    ¬c.IsFileAddress filename url := by
  obtain ⟨first, second, rest, hfirst, hadded, hall, haddress⟩ :=
    fileAddress_eq hpath hweb hnames filename
  obtain ⟨n', rest', hrest⟩ : ∃ n' rest', rest ++ [""] = n' :: rest' :=
    List.exists_cons_of_ne_nil (List.append_ne_nil_of_right_ne_nil _ (List.cons_ne_nil _ _))
  obtain rfl : first = "" := by
    rcases hfirst with ⟨-, hlength⟩ | ⟨n', more', hnames'⟩
    · rw [hstart] at hlength
      exact absurd hlength (by simp)
    · exact (List.cons.inj (hnames'.symm.trans hstart)).1
  rw [hrest] at hall haddress
  have hurl := Url.join_slashes hpath (Url.ne_file_of_web hweb) hall
    (endpoint_eq_ok.mp (haddress.symm.trans h))
  intro hexact
  obtain ⟨segment, -, -, rfl⟩ := (isFileAddress_iff hpath hweb).mp hexact
  -- One name is added at most, and the first two are gone.
  have hlength := congrArg List.length (UrlPath.segments.inj hurl)
  have hle := hadded.length_le
  rw [← hrest] at hlength
  simp at hlength hle
  omega

include hpath hweb hnames in
/-- **Otherwise a file is asked for at its address if and only if one segment can stand for its
name.** -/
theorem isFileAddress_iff_isSegment (hstart : ∀ n more, names ≠ "" :: n :: more)
    (hne : filename ≠ "") :
    (∃ url, c.fileAddress filename = .ok url ∧ c.IsFileAddress filename url) ↔
      UrlPath.IsSegment filename := by
  obtain ⟨pushed, hadded, haddress⟩ := fileAddress_home hpath hweb hnames hstart filename
  simp only [haddress, Except.ok.injEq, exists_eq_left', isFileAddress_iff hpath hweb]
  constructor
  · rintro ⟨segment, -, hdecode, heq⟩
    -- Both end in a slash, so the name that is added is the segment that stands for the file.
    have hsegments := UrlPath.segments.inj (congrArg Url.path heq)
    have happend : pushed ++ [""] = c.filesNames names ++ [segment] ++ [""] := by
      rw [hsegments, List.append_assoc]
      rfl
    exact hadded.isSegment (List.append_cancel_right happend) hdecode hne
  · intro hsegment
    obtain ⟨rfl, hname⟩ := hadded.eq_of_isSegment hsegment
    have hdecode := UrlPath.decodeText?_segmentFor filename.toList
    rw [String.ofList_toList] at hdecode
    refine ⟨_, hname, hdecode, ?_⟩
    rw [List.append_assoc]
    rfl

end

/-! ## Runs -/

variable {t : Traffic}

/-- **A file is asked for at an address**: every request of the run is for it, and the first one is
handed over if there are credentials and it can be made. -/
structure AsksAt (c : Controller) (filename : String) (t : Traffic) (url : Url) : Prop where
  requests : ∃ new, (c.getFile filename t).2 = t ++ new ∧ ∀ x ∈ Traffic.exchanges new,
    x.request.method = .get ∧ x.request.url = url.withoutUserInfo ∧ x.request.payload = .empty
  begins : ∀ header request, c.authorize (Traffic.count t + 1) .get url = .ok header →
    Request.make .get url [] header c.compression .empty = .ok request →
    ∃ outcome rest, (c.getFile filename t).2 = t ++ (.begun :: .sent ⟨request, outcome⟩ :: rest)

/-- Once the path of a file is known, the call for it is made. -/
theorem getFile_eq (hne : filename ≠ "") {path : String} (h : c.filePath filename = .ok path)
    (t : Traffic) :
    c.getFile filename t = c.sendAndRead (.get path []) StoredFile.reader.read t := by
  rw [getFile, if_neg hne, h, Dialogue.bind_ok (Dialogue.ofExcept_apply _ t)]

/-- The run for a file asks at the address of its path. -/
theorem asksAt_of_fileAddress (hne : filename ≠ "") (h : c.fileAddress filename = .ok url)
    (t : Traffic) : c.AsksAt filename t url := by
  cases hpath : c.filePath filename with
  | error e =>
      rw [fileAddress, hpath] at h
      cases h
  | ok path =>
      have hurl : c.endpoint path = .ok url := (fileAddress_of_path hpath).symm.trans h
      have hget := getFile_eq hne hpath t
      refine ⟨?_, ?_⟩
      · obtain ⟨new, hnew, hserves⟩ :=
          c.sendAndRead_extends (.get path []) StoredFile.reader.read t
        refine ⟨new, by rw [hget, hnew], ?_⟩
        intro x hx
        obtain ⟨_, rfl, url', header, hurl', hrequest⟩ := hserves x hx
        obtain rfl := Except.ok.inj (hurl'.symm.trans hurl)
        obtain ⟨-, -, hx⟩ := Request.make_eq_ok hrequest
        rw [hx]
        exact ⟨rfl, rfl, rfl⟩
      · intro header request hauth hrequest
        rw [hget, sendAndRead_traffic]
        exact send_begins hurl hauth hrequest

/-- Where no address is found, nothing is sent. -/
theorem getFile_of_fileAddress_error (hne : filename ≠ "") {e : Error}
    (h : c.fileAddress filename = .error e) (t : Traffic) :
    c.getFile filename t = (.error e, t) := by
  cases hpath : c.filePath filename with
  | error e' =>
      rw [fileAddress, hpath] at h
      obtain rfl : e' = e := Except.error.inj h
      rw [getFile, if_neg hne, hpath]
      exact Dialogue.bind_error (Dialogue.ofExcept_apply _ t)
  | ok path =>
      have hurl : c.endpoint (Call.get path []).path = .error e :=
        (fileAddress_of_path hpath).symm.trans h
      rw [getFile_eq hne hpath]
      exact sendAndRead_of_no_address hurl _ t

/-- **A file is asked for at its address exactly if** one segment can stand for its name, and the
path of the address of the controller does not begin with two slashes. That address is not the one
of all files, and not that of another file. Wherever it is found, only that address is asked. -/
theorem getFile_exact {domains : DomainForm} {address : String} {k : Connector}
    (hk : Connector.forAddress domains address = .ok k) (hc : c.address = k.address)
    (hscheme : c.address.scheme = "http" ∨ c.address.scheme = "https") (hne : filename ≠ "") :
    ((∃ url, c.fileAddress filename = .ok url ∧ c.IsFileAddress filename url) ↔
      UrlPath.IsSegment filename ∧ ∀ n more, c.address.path ≠ .segments ("" :: n :: more)) ∧
    (∀ url, c.IsFileAddress filename url →
      (∀ all, c.endpoint c.filesPath = .ok all → url.path ≠ all.path) ∧
      ∀ other url', c.IsFileAddress other url' → url.path = url'.path → filename = other) ∧
    ∀ t, (∃ url, c.fileAddress filename = .ok url ∧ c.AsksAt filename t url) ∨
      ∃ e, c.fileAddress filename = .error e ∧ c.getFile filename t = (.error e, t) := by
  obtain ⟨names, hpath, hnames⟩ := forAddress_names hk (hc ▸ hscheme)
  rw [← hc] at hpath
  refine ⟨?_, ?_, ?_⟩
  -- Whether the address begins with two slashes does not depend on the name.
  · by_cases hstart : ∃ n more, names = "" :: n :: more
    · obtain ⟨n, more, rfl⟩ := hstart
      constructor
      · rintro ⟨url, hurl, hexact⟩
        exact absurd hexact (not_isFileAddress_of_slashes hpath hscheme hnames rfl hurl)
      · rintro ⟨-, hno⟩
        exact absurd hpath (hno n more)
    · have hno : ∀ n more, names ≠ "" :: n :: more := fun n more heq => hstart ⟨n, more, heq⟩
      rw [isFileAddress_iff_isSegment hpath hscheme hnames hno hne]
      refine (and_iff_left fun n more heq => ?_).symm
      exact hno n more (UrlPath.segments.inj (hpath.symm.trans heq))
  · intro url hexact
    exact ⟨fun all hall => hexact.path_ne hall, fun other url' h' heq => hexact.name_eq h' heq⟩
  · intro t
    cases haddress : c.fileAddress filename with
    | ok url => exact .inl ⟨url, rfl, asksAt_of_fileAddress hne haddress t⟩
    | error e => exact .inr ⟨e, rfl, getFile_of_fileAddress_error hne haddress t⟩

theorem getFile_exact_plain :
    let c := plain .busyAtFirst
    let k : Connector := ⟨c.address, .v2_0, .standard, none, .plain⟩
    let filename := "a b/%2e"
    Connector.forAddress .plain "http://maas.test/MAAS/" = .ok k ∧ c.address = k.address ∧
      (c.address.scheme = "http" ∨ c.address.scheme = "https") ∧ filename ≠ "" ∧
      UrlPath.IsSegment filename ∧ (∀ n more, c.address.path ≠ .segments ("" :: n :: more)) ∧
      ∃ url, c.fileAddress filename = .ok url ∧ c.IsFileAddress filename url := by
  intro c k filename
  have hparse : Url.parse .plain "http://maas.test/MAAS/" = .ok c.address := by decide +kernel
  have hk : Connector.forAddress .plain "http://maas.test/MAAS/" = .ok k := by
    rw [Connector.forAddress, hparse]
    rfl
  have hne : filename ≠ "" := by decide
  have hsegment : UrlPath.IsSegment filename :=
    ⟨by decide, by decide, (UrlPath.kept_eq_iff filename).mp (by decide)⟩
  have hstart : ∀ n more, c.address.path ≠ .segments ("" :: n :: more) := by
    intro n more heq
    exact absurd (List.cons.inj (UrlPath.segments.inj heq)).1 (by decide)
  exact ⟨hk, rfl, .inl rfl, hne, hsegment, hstart,
    (getFile_exact hk rfl (.inl rfl) hne).1.mpr ⟨hsegment, hstart⟩⟩

/-- A tab in a name is left out, so that another file is asked for; a dot asks for all files, and
two dots with a tab between them for what is above. -/
theorem getFile_other :
    let c := plain fun _ _ => .response ⟨200, none, []⟩
    let asked (filename : String) :=
      (Traffic.exchanges (c.getFile filename []).2).map fun x => x.request.url.text
    asked "a\tb" = asked "ab" ∧ asked "ab" = ["http://maas.test/MAAS/api/2.0/files/ab/"] ∧
      asked "." = ["http://maas.test/MAAS/api/2.0/files/"] ∧
      asked ".\t." = ["http://maas.test/MAAS/api/2.0//"] := by
  decide +kernel

-- Two slashes in the address of the controller make a server of the name after them.
example :
    (Connector.forAddress .plain "http://maas.test//other.test/" >>= fun k =>
      ((k.controller .busyAtFirst).fileAddress "f").map Url.text) =
        .ok "http://other.test/api/2.0/files/f/" := by
  decide +kernel

end RegionClient.Controller
