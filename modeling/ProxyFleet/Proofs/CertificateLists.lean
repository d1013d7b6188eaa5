import ProxyFleet.Proofs.ByteOrder
import ProxyFleet.Proofs.DeclaredFiles
import ProxyFleet.Proofs.KeptValues

/-!
# Certificate lists

The file of a certificate list shows what is declared for the list, and what is merged into it.

**Texts.**  `SideFile.Lists` says what the text of a list shows: one line for each element, in
ascending order of bytes.  There is such a text for any elements, and only one, whatever their order
is (`SideFile.exists_lists`, `SideFile.Lists.text_eq`).

**Declarations.**  `Records.HasList` finds the lists of encrypted addresses among the records, each
with the declarations that are merged into it.  An address of the fleet has the elements that these
declarations become (`Records.HasList.exists_bind`).

Main statement: `Pass.lists_show_merged_elements`.
-/

namespace ProxyFleet

open Section (CertificateElement CertificateList)

/-! ## Texts -/

namespace SideFile

/-- **What the text of a certificate list shows**: the line of each element, once for each time that
the element is there, the lines in ascending order of their bytes, and nothing else. -/
structure Lists (elements order : List CertificateElement) (text : String) : Prop where
  perm : order.Perm elements
  ascending : (order.map CertificateElement.line).Pairwise
    (fun a b => Text.utf8 a ≤ Text.utf8 b)
  text_eq_join : text = String.join (order.map CertificateElement.line)

variable {elements others order : List CertificateElement} {text : String}

/-- The lines of a list stand in ascending order. -/
lemma pairwise_ascending (lines : List String) :
    (lines.mergeSort (fun a b => !decide (b < a))).Pairwise (· ≤ ·) :=
  Text.pairwise_mergeSort_of_iff (fun a b => Text.not_before_iff b a)
    (fun _ _ _ => String.le_trans) String.le_total lines

/-- **There is only one text for a list**, whatever the order of its elements is. -/
lemma Lists.text_eq (h : Lists elements order text) (hperm : elements.Perm others) :
    text = listContent others := by
  have hlines : order.map CertificateElement.line =
      (others.map CertificateElement.line).mergeSort (fun a b => !decide (b < a)) := by
    refine Text.eq_of_ascending ?_ (h.ascending.imp Text.utf8_le_iff.1) (pairwise_ascending _)
    calc
      (order.map CertificateElement.line).Perm (others.map CertificateElement.line) :=
        (h.perm.trans hperm).map _
      List.Perm _ ((others.map CertificateElement.line).mergeSort (fun a b => !decide (b < a))) :=
        (List.mergeSort_perm _ _).symm
  rw [h.text_eq_join, hlines, listContent]

/-- Elements whose lines are in ascending order show the text of the list. -/
lemma lists_of_ascending (hperm : order.Perm elements)
    (h : order.Pairwise (fun a b => a.line ≤ b.line)) :
    Lists elements order (listContent elements) := by
  have hlists : Lists elements order (String.join (order.map CertificateElement.line)) :=
    ⟨hperm, List.pairwise_map.2 (h.imp Text.utf8_le_iff.2), rfl⟩
  exact ⟨hperm, hlists.ascending, (hlists.text_eq (.refl elements)).symm⟩

/-- **The text that is written for a list shows its elements.** -/
lemma exists_lists (elements : List CertificateElement) :
    ∃ order, Lists elements order (listContent elements) := by
  have hcomparison : ∀ a b : CertificateElement,
      (!decide (b.line < a.line)) = true ↔ a.line ≤ b.line := by
    intro a b
    exact Text.not_before_iff b.line a.line
  have hsorted : (elements.mergeSort (fun a b => !decide (b.line < a.line))).Pairwise
      (fun a b => a.line ≤ b.line) := by
    apply Text.pairwise_mergeSort_of_iff hcomparison
    · intro a b c hab hbc
      exact String.le_trans hab hbc
    · intro a b
      exact String.le_total a.line b.line
  exact ⟨_, lists_of_ascending (List.mergeSort_perm _ _) hsorted⟩

/-- The text of a list does not tell in which order its elements were found. -/
lemma listContent_perm (h : elements.Perm others) : listContent elements = listContent others := by
  obtain ⟨order, hlists⟩ := exists_lists elements
  exact hlists.text_eq h

end SideFile

/-! ## Declarations -/

/-- What declared elements become, one for each and in their order. -/
def Section.CertificateElement.Checked (space : String) (declared : List Spec.CertificateElement)
    (elements : List CertificateElement) : Prop :=
  List.Forall₂ (fun spec e => ofSpec space spec = .ok e) declared elements

/-- The same declarations in any order become the same elements in some order. -/
lemma Section.CertificateElement.Checked.exists_of_perm {space : String}
    {declared others : List Spec.CertificateElement} {elements : List CertificateElement}
    (hperm : others.Perm declared) (h : Checked space declared elements) :
    ∃ checked, Checked space others checked ∧ checked.Perm elements := by
  obtain ⟨checked, hchecked, hsame⟩ := List.perm_comp_forall₂ hperm h
  exact ⟨checked, hchecked, hsame⟩

/-- Declared elements become the same ones every time. -/
lemma Section.CertificateElement.Checked.unique {space : String}
    {declared : List Spec.CertificateElement} {elements others : List CertificateElement}
    (h : Checked space declared elements) (ho : Checked space declared others) :
    elements = others := by
  induction h generalizing others with
  | nil =>
    cases ho
    rfl
  | cons hfirst _ ih =>
    cases ho with
    | cons hother hrest => rw [Except.ok.inj (hfirst.symm.trans hother), ih hrest]

namespace Records

/-- **The certificate lists of encrypted addresses**, each with the declarations that are merged
into it: the host certificate of the listen, or those of the backends that the list selects for the
frontend. -/
inductive HasList (r : Records) : Spec.CertificateList → List Spec.CertificateElement → Prop
  | listen {l : ListenRecord} {b : Spec.Bind} {list : Spec.CertificateList} (hl : l ∈ r.listens)
    (hb : b ∈ l.spec.binds) (hlist : b.countedList = some list) :
    HasList r list l.spec.hostCertificate.toList
  | frontend {f : FrontendRecord} {b : Spec.Bind} {list : Spec.CertificateList}
    (hf : f ∈ r.frontends) (hb : b ∈ f.spec.binds) (hlist : b.countedList = some list) :
    HasList r list (list.selector.elim [] r.hostCertificates)

/-- Records in another order have the same host certificates in some order. -/
lemma hostCertificates_perm {r s : Records} (h : r.backends.Perm s.backends) (sel : Selector) :
    (r.hostCertificates sel).Perm (s.hostCertificates sel) :=
  (h.filter _).filterMap _

/-- What a list selects becomes what its address selects in the fleet. -/
lemma checked_selected {space : String} {r : Records} {entries : List (Entry Section.Backend)}
    (h : List.Forall₂ (Entry.Represents .backend space (Section.Backend.ofSpec space)) r.backends
      entries) {b : Section.Bind} {l : CertificateList} (hl : b.certificateList = some l) :
    CertificateElement.Checked space (l.selector.elim [] r.hostCertificates)
      (SideFile.selectedCertificates entries b) := by
  rw [SideFile.selectedCertificates, hl, Option.bind_some]
  cases l.selector with
  | none => exact .nil
  | some sel => exact Entry.hostCertificates_of_records sel h

/-- **The address of a list has what the declarations become.** -/
lemma HasList.exists_bind {cancel : Cancellation} {owner : RecordRef} {r : Records} {fleet : Fleet}
    (hfleet : Fleet.ofRecords cancel owner r = .ok fleet) {list : Spec.CertificateList}
    {extra : List Spec.CertificateElement} (h : r.HasList list extra) :
    ∃ b more l, fleet.HasBind b more ∧ b.certificateList = some l ∧ l.name = list.name ∧
      ∃ elements, CertificateElement.Checked owner.space (list.elements ++ extra) elements ∧
        elements.Perm (l.elements ++ more) := by
  obtain ⟨c₁, c₂, c₃, c₄, hl, hf, hb, -⟩ := Fleet.ofRecords_eq_ok hfleet
  cases h with
  | @listen l b list hmem hbind hlist =>
    obtain ⟨e, he, hrepresents⟩ := Check.exists_of_mem_left (Entry.represents_of_ofRecords hl)
      ((Record.sorted_perm _).mem_iff.2 hmem)
    obtain ⟨-, hbinds, -, hhost, -⟩ := Section.Listen.ofSpec_eq_ok_iff.1 hrepresents.content
    obtain ⟨m, hm, hof⟩ := Check.exists_of_mem_left (Check.forall₂_of_mapM hbinds) hbind
    obtain ⟨checked, hchecked, hmlist⟩ := Section.Bind.exists_list_of_ofSpec hof hlist
    obtain ⟨hname, helements, -⟩ := CertificateList.of_ofSpec hchecked
    exact ⟨m, _, checked, .listen he hm, hmlist, hname, _,
      List.rel_append (Check.forall₂_of_mapM helements) (Check.forall₂_of_mapM_option hhost),
      .refl _⟩
  | @frontend f b list hmem hbind hlist =>
    obtain ⟨e, he, hrepresents⟩ := Check.exists_of_mem_left (Entry.represents_of_ofRecords hf)
      ((Record.sorted_perm _).mem_iff.2 hmem)
    obtain ⟨-, hbinds, -⟩ := Section.Frontend.ofSpec_eq_ok_iff.1 hrepresents.content
    obtain ⟨m, hm, hof⟩ := Check.exists_of_mem_left (Check.forall₂_of_mapM hbinds) hbind
    obtain ⟨checked, hchecked, hmlist⟩ := Section.Bind.exists_list_of_ofSpec hof hlist
    obtain ⟨hname, helements, hselector⟩ := CertificateList.of_ofSpec hchecked
    -- the fleet has the backends in their order, not in the one that they were handed in
    let sorted : Records := { r with backends := Record.sorted r.backends }
    have hselected := checked_selected (r := sorted) (Entry.represents_of_ofRecords hb) hmlist
    have hextra : (list.selector.elim [] r.hostCertificates).Perm
        (checked.selector.elim [] sorted.hostCertificates) := by
      rw [hselector]
      cases list.selector with
      | none => exact .refl _
      | some sel => exact hostCertificates_perm (Record.sorted_perm _).symm sel
    obtain ⟨elements, helements', hperm⟩ := CertificateElement.Checked.exists_of_perm
      (hextra.append_left list.elements)
      (List.rel_append (Check.forall₂_of_mapM helements) hselected)
    exact ⟨m, _, checked, .frontend he hm, hmlist, hname, elements, helements', hperm⟩

end Records

namespace Pass

variable {store : Store} {cancel : Cancellation} {i : InstanceRecord} {records : Records}
  {content : Section.Instance} {fleet : Fleet} {set : ArtifactSet}

/-- The text of a list is generated from what its declarations become. -/
lemma declares_list (h : prepare cancel i records = .ok (content, fleet))
    {list : Spec.CertificateList} {extra : List Spec.CertificateElement}
    (hlist : records.HasList list extra) :
    ∃ elements, CertificateElement.Checked (instanceRef i).space (list.elements ++ extra) elements ∧
      SideFile.Declares content fleet
        ⟨configPath list.name "map", .inline (SideFile.listContent elements)⟩ := by
  obtain ⟨b, more, l, hbind, hl, hname, elements, hchecked, hperm⟩ :=
    hlist.exists_bind (prepare_eq_ok h).2
  refine ⟨elements, hchecked, ?_⟩
  rw [SideFile.listContent_perm hperm, ← hname]
  exact .certificateList hbind hl

/-- **What the files of certificate lists show.**  In a pass that succeeds every certificate list of
an encrypted address is generated as a file with one line for each element that is merged into it:
the elements of the list, and the host certificate of the listen or those of the backends that the
list selects for the frontend.  The lines stand in ascending order of their bytes, and nothing else
is in the file.  The declared elements in any other order lead to the same text.  The path of the
list holds it, unless something else with that path is generated with another content. -/
theorem lists_show_merged_elements (h : (run store cancel i records).result = .ok set) :
    ∃ content fleet, prepare cancel i records = .ok (content, fleet) ∧
      ∀ list extra, records.HasList list extra → ∃ text,
        SideFile.Declares content fleet ⟨configPath list.name "map", .inline text⟩ ∧
        (∃ elements order,
          CertificateElement.Checked (instanceRef i).space (list.elements ++ extra) elements ∧
          SideFile.Lists elements order text) ∧
        (∀ declared elements order other, declared.Perm (list.elements ++ extra) →
          CertificateElement.Checked (instanceRef i).space declared elements →
          SideFile.Lists elements order other → other = text) ∧
        ((∀ d, SideFile.Declares content fleet d → d.path = configPath list.name "map" →
            d.source.resolve store = some text) →
          set.files.get? (configPath list.name "map") = some text) := by
  obtain ⟨content, fleet, -, -, hprepare, -, -⟩ := run_eq_ok h
  refine ⟨content, fleet, hprepare, fun list extra hlist => ?_⟩
  obtain ⟨elements, hchecked, hdeclared⟩ := declares_list hprepare hlist
  obtain ⟨order, hlists⟩ := SideFile.exists_lists elements
  refine ⟨_, hdeclared, ⟨elements, order, hchecked, hlists⟩, ?_,
    get?_of_declares h hprepare hdeclared⟩
  intro declared others order' other hdeclarations hothers hother
  obtain ⟨same, hsame, hpermSame⟩ := hchecked.exists_of_perm hdeclarations
  rw [hsame.unique hothers] at hpermSame
  exact hother.text_eq hpermSame

/-- An element with a certificate of its own for the host of a shop. -/
def listedHost (name : String) (alpn : List String) : Spec.CertificateElement :=
  ⟨⟨name, some "pem", []⟩, "shop.test", alpn, false, .none⟩

/-- What such an element becomes. -/
def listedElement (name : String) (alpn : List String) : CertificateElement :=
  ⟨⟨name, .inline "pem"⟩, "shop.test", alpn, .off⟩

/-- A frontend with a certificate list that selects the backends of a shop. -/
def listingFrontend (elements : List Spec.CertificateElement) : FrontendRecord :=
  .plain (some "edge") "web"
    { Spec.Frontend.none with
      binds := [.encrypted ⟨true, .none, .none, .none, .none, .none, []⟩
        (some ⟨"hosts", elements, some (.ofLabels (KeyMap.empty.insert "app" "shop"))⟩)] }

/-- A backend of an application that may have a host certificate. -/
def listedBackend (name app : String) (host : Option Spec.CertificateElement) : BackendRecord :=
  ⟨{ Metadata.named (some "edge") name with labels := some (KeyMap.empty.insert "app" app) },
    { Spec.Backend.none with hostCertificate := host }, .none⟩

/-- Of three backends one is selected and has a certificate, which comes before the given one. -/
theorem lists_show_merged_elements_one_selected :
    let store : Store := fun _ => .ok none
    let i : InstanceRecord := .plain (some "edge") "fleet" .none
    let records : Records := ⟨[], [listingFrontend [listedHost "shop" []]],
      [listedBackend "blog" "blog" (some (listedHost "blog" [])),
        listedBackend "cart" "shop" (some (listedHost "cart" ["h2"])),
        listedBackend "pool" "shop" none], []⟩
    ∃ set, (run store .never i records).result = .ok set ∧
      set.files.get? (inConfigDir "hosts.map") =
        some ("/usr/local/etc/haproxy/cart.crt [alpn h2] shop.test \n" ++
          "/usr/local/etc/haproxy/shop.crt  shop.test \n") := by
  intro store i records
  have hsorted : Record.sorted records.backends = records.backends :=
    List.mergeSort_of_pairwise (by decide)
  have hok : (run store .never i records).result.map (fun _ => ()) = .ok () := by
    simp only [run, prepare, Fleet.ofRecords, hsorted]
    decide +kernel
  have hpaths : (prepare .never i records).map
      (fun p => (SideFile.declarations (instanceRef i) p.1 p.2).map (·.path)) =
        .ok [inConfigDir "shop.crt", inConfigDir "cart.crt", inConfigDir "hosts.map"] := by
    simp only [prepare, Fleet.ofRecords, hsorted]
    decide +kernel
  obtain ⟨set, hset, -⟩ := Check.map_eq_ok_iff.1 hok
  obtain ⟨content, fleet, hprepare, hlists⟩ := lists_show_merged_elements hset
  obtain ⟨text, hdeclares, -, hunique, -⟩ := hlists _ _ (.frontend (r := records)
    List.mem_cons_self List.mem_cons_self rfl)
  rw [hprepare, Except.map, Except.ok.injEq] at hpaths
  have hfile := get?_of_distinct hset hprepare (by rw [hpaths]; decide) hdeclares
  have hchecked : CertificateElement.Checked (instanceRef i).space
      [listedHost "shop" [], listedHost "cart" ["h2"]]
      [listedElement "shop" [], listedElement "cart" ["h2"]] :=
    .cons (by decide) (.cons (by decide) .nil)
  have hshows : SideFile.Lists [listedElement "shop" [], listedElement "cart" ["h2"]]
      [listedElement "cart" ["h2"], listedElement "shop" []]
      ("/usr/local/etc/haproxy/cart.crt [alpn h2] shop.test \n" ++
        "/usr/local/etc/haproxy/shop.crt  shop.test \n") :=
    ⟨.swap _ _ _, by decide, by decide⟩
  rw [hunique [listedHost "shop" [], listedHost "cart" ["h2"]] _ _ _ (.refl _) hchecked hshows]
  exact ⟨set, hset, hfile⟩

end Pass

end ProxyFleet
