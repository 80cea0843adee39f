import Vmstated.Libprocwatch.ConsoleLinks

/-! Links to the devices at the other end of the consoles. -/
namespace Vmstated.Properties
open Library Libconfig Libprocwatch
open Libtranslate (BhyveConfigurationConsole)

/-- The device that is connected with this one: `A` for `B`, and `B` for `A`. -/
def peerEnd (byte : UInt8) : UInt8 :=
  if byte = 65 ∨ byte = 97 then 66 else if byte = 66 ∨ byte = 98 then 65 else byte

def peerDevice (backend : List UInt8) : List UInt8 :=
  backend.dropLast ++ (backend.getLast?.map peerEnd).toList

def directoryOf (file : BackingFile) : List UInt8 := file.path.val.rdropWhile (· ≠ 47)

/-- A console asks for a link if it has a backend that is not empty. -/
def askedLink (file : BackingFile) (bcc : BhyveConfigurationConsole) :
    Option (List UInt8 × List UInt8) :=
  match bcc.name, bcc.backend with
  | some name, some backend =>
    if backend.val = [] then none else some (directoryOf file ++ name.val, peerDevice backend.val)
  | _, _ => none

def askedLinks (file : BackingFile) (bccl : List BhyveConfigurationConsole) :
    List (List UInt8 × List UInt8) :=
  bccl.filterMap (askedLink file)

/-- From any state of the file system both calls come to an end. -/
def LinksConsoles (file : BackingFile) (bccl : List BhyveConfigurationConsole) : Prop :=
  ∀ fs, ∃ linked, bwvLinkconsoles file bccl true fs = some (0, linked) ∧
    (∀ link ∈ askedLinks file bccl, linked link.1 = some (.symlink link.2)) ∧
    ∃ result unlinked, bwvLinkconsoles file bccl false linked = some (result, unlinked) ∧
      ∀ link ∈ askedLinks file bccl, unlinked link.1 = none

/-- A backend that can be copied. -/
def GoodBackend (bcc : BhyveConfigurationConsole) : Prop :=
  ∃ backend, bcc.backend = some backend ∧ backend.val ≠ [] ∧ backend.val.length < pathMax

/-- What the first five consoles have to be, and what the others may ask for. -/
structure Linkable (file : BackingFile) (bccl : List BhyveConfigurationConsole) : Prop where
  first : ∀ bcc ∈ bccl.take 5, bcc.name ≠ none ∧ GoodBackend bcc
  fits : ∀ link ∈ askedLinks file bccl, link.1.length < pathMax
  covered : ∀ link ∈ askedLinks file bccl,
    lastValue link.1 (askedLinks file (bccl.take 5)) = some link.2
  apart : ∃ fresh rest, (askedLinks file (bccl.take 5)).map Prod.fst = fresh ++ rest ∧
    fresh.Nodup ∧ rest ⊆ fresh

section
variable {file : BackingFile} {bccl bccs : List BhyveConfigurationConsole}
  {bcc : BhyveConfigurationConsole}

theorem directoryOf_eq (file : BackingFile) : directoryOf file = clearFilename file.path.val := by
  obtain ⟨front, rest, hpath, hrest⟩ := file.path_eq
  have hbehind : ∀ byte ∈ rest.reverse, decide (byte ≠ 47) = true := by
    intro byte hbyte
    have hne : byte ≠ 47 := fun heq => hrest (heq ▸ List.mem_reverse.mp hbyte)
    exact decide_eq_true hne
  have hdropped : (front ++ 47 :: rest).rdropWhile (· ≠ 47) = front ++ [47] := by
    rw [List.rdropWhile, List.reverse_append, List.reverse_cons, List.append_assoc,
      List.dropWhile_append_of_pos hbehind, List.singleton_append,
        List.dropWhile_cons_of_neg (by simp)]
    simp
  rw [directoryOf, hpath, clearFilename_append front hrest, hdropped]

theorem swapEnd_eq {name : List UInt8} (hne : name ≠ []) : swapEnd name = peerDevice name := by
  obtain ⟨front, last, rfl⟩ := (List.eq_nil_or_concat' name).resolve_left hne
  have hset (byte : UInt8) : (front ++ [last]).set ((front ++ [last]).length - 1) byte =
      front ++ [byte] := by simp
  have hlast : (front ++ [last]).getD ((front ++ [last]).length - 1) 0 = last := by simp
  have hpeer : peerDevice (front ++ [last]) = front ++ [peerEnd last] := by simp [peerDevice]
  obtain ⟨ha, hb⟩ := toUpper_eq_iff last
  simp only [swapEnd, hlast, hset, hpeer, peerEnd, ha, hb]
  split
  · rfl
  · split <;> rfl

theorem backendName_eq_some {backend : Option CString} {target : List UInt8} :
    backendName backend = some target ↔
      ∃ name, backend = some name ∧ name.val ≠ [] ∧ name.val.length < pathMax ∧
        target = peerDevice name.val := by
  cases backend with
  | none =>
    refine iff_of_false (fun h => nomatch h) ?_
    rintro ⟨name, hname, -⟩
    cases hname
  | some name =>
    simp only [backendName, Option.some.injEq, exists_eq_left', loadString, zero_mem_strncpy]
    by_cases hfits : name.val.length < pathMax
    · have hstring := cString_strncpy_of_lt hfits []
      rw [List.append_nil] at hstring
      rw [if_pos hfits, Option.bind_some, hstring]
      by_cases hempty : name.val = []
      · simp [hempty]
      · rw [if_neg hempty, swapEnd_eq hempty, Option.some.injEq, eq_comm]
        exact (and_iff_right hempty).symm.trans
          (and_congr_right fun _ => (and_iff_right hfits).symm)
    · rw [if_neg hfits]
      simp [hfits]

/-! One console. -/

theorem linkOf_eq_some {link : List UInt8 × List UInt8} (h : linkOf file bcc = some link) :
    (bcc.name ≠ none ∧ GoodBackend bcc) ∧ link.1.length < pathMax := by
  unfold linkOf at h
  split at h
  · rename_i target name hbackend hname
    obtain ⟨backend, hsome, hne, hfits, -⟩ := backendName_eq_some.mp hbackend
    obtain rfl := Option.some.inj h
    refine ⟨⟨?_, backend, hsome, hne, hfits⟩, linkPath_length file name⟩
    rw [hname]
    exact Option.some_ne_none name
  · contradiction

theorem askedLink_of_good (hname : bcc.name ≠ none) (hgood : GoodBackend bcc) :
    ∃ name backend, bcc.name = some name ∧ backendName bcc.backend = some (peerDevice backend) ∧
      askedLink file bcc = some (directoryOf file ++ name.val, peerDevice backend) := by
  obtain ⟨name, hname⟩ := Option.ne_none_iff_exists'.mp hname
  obtain ⟨backend, hbackend, hne, hfits⟩ := hgood
  refine ⟨name, backend.val, hname,
    backendName_eq_some.mpr ⟨backend, hbackend, hne, hfits, rfl⟩, ?_⟩
  rw [askedLink, hname, hbackend]
  exact if_neg hne

theorem linkOf_of_asked (hname : bcc.name ≠ none) (hgood : GoodBackend bcc)
    (hfits : ∀ link, askedLink file bcc = some link → link.1.length < pathMax) :
    ∃ link, askedLink file bcc = some link ∧ linkOf file bcc = some link := by
  obtain ⟨name, backend, hname, hbackend, hasked⟩ := @askedLink_of_good file bcc hname hgood
  have hroom := hfits _ hasked
  rw [directoryOf_eq] at hroom
  refine ⟨_, hasked, ?_⟩
  rw [linkOf, hname, hbackend, directoryOf_eq, ← linkPath_eq hroom]

/-! All of them. -/

theorem forall₂_asked (hfirst : ∀ bcc ∈ bccs, bcc.name ≠ none ∧ GoodBackend bcc)
    (hfits : ∀ link ∈ askedLinks file bccs, link.1.length < pathMax) :
    List.Forall₂ (fun bcc link => linkOf file bcc = some link) bccs (askedLinks file bccs) := by
  induction bccs with
  | nil => exact .nil
  | cons bcc bccs ih =>
    obtain ⟨⟨hname, hgood⟩, hlater⟩ := List.forall_mem_cons.mp hfirst
    have hroom : ∀ link, askedLink file bcc = some link → link.1.length < pathMax :=
      fun link hlink => hfits link (List.mem_filterMap.mpr ⟨bcc, List.mem_cons_self, hlink⟩)
    obtain ⟨link, hasked, hlink⟩ := linkOf_of_asked hname hgood hroom
    have hlinks : askedLinks file (bcc :: bccs) = link :: askedLinks file bccs :=
      List.filterMap_cons_some hasked
    rw [hlinks] at hfits ⊢
    exact .cons hlink (ih hlater fun link hmem => hfits link (List.mem_cons_of_mem _ hmem))

theorem linked_apply (links : List (List UInt8 × List UInt8))
    (fs : FileSystem) (path : List UInt8) :
    Directory.replaceAll (linkEntries links) fs path =
      ((lastValue path links).map .symlink).or (fs path) := by
  rw [Directory.replaceAll_apply, linkEntries, Directory.lastValue_map]

theorem made_of_links {links : List (List UInt8 × List UInt8)}
    (hlinks : List.Forall₂ (fun bcc link => linkOf file bcc = some link) bccs links) :
    (∀ bcc ∈ bccs, bcc.name ≠ none ∧ GoodBackend bcc) ∧ ∀ link ∈ links,
      link.1.length < pathMax := by
  induction hlinks with
  | nil => simp
  | cons hlink _ ih =>
    obtain ⟨hmade, hlength⟩ := linkOf_eq_some hlink
    exact ⟨List.forall_mem_cons.mpr ⟨hmade, ih.1⟩, List.forall_mem_cons.mpr ⟨hlength, ih.2⟩⟩

theorem askedLinks_take (n : Nat) : askedLinks file (bccl.take n) ⊆ askedLinks file bccl :=
  List.filterMap_subset _ (List.take_subset n bccl)

theorem asked_present {fs : FileSystem}
    (hlinked : ∀ link ∈ askedLinks file bccl, fs link.1 = some (.symlink link.2)) :
    ∀ path ∈ (askedLinks file (bccl.take 5)).map Prod.fst, fs path ≠ none := by
  intro path hpath
  obtain ⟨link, hlink, rfl⟩ := List.mem_map.mp hpath
  rw [hlinked link (askedLinks_take 5 hlink)]
  exact Option.some_ne_none _

theorem linksConsoles_of_linkable (h : Linkable file bccl) : LinksConsoles file bccl := by
  intro fs
  have hlinks := forall₂_asked h.first fun link hlink => h.fits link (askedLinks_take 5 hlink)
  have hlinked : ∀ link ∈ askedLinks file bccl,
      Directory.replaceAll (linkEntries (askedLinks file (bccl.take 5))) fs link.1 =
        some (.symlink link.2) := by
    intro link hlink
    rw [linked_apply, h.covered link hlink]
    rfl
  obtain ⟨result, hunlink⟩ := linkEach_unlink hlinks
    (Directory.replaceAll (linkEntries (askedLinks file (bccl.take 5))) fs)
  refine ⟨_, (bwvLinkconsoles_eq true fs).trans (linkEach_link hlinks fs), hlinked, result, _,
    (bwvLinkconsoles_eq false _).trans hunlink, ?_⟩
  intro link hlink
  have hmem := Directory.mem_of_lastValue (h.covered link hlink)
  exact (Directory.removeAll_iff (asked_present hlinked)).mpr h.apart link.1
    (List.mem_map_of_mem hmem)

theorem linkable_of_linksConsoles (h : LinksConsoles file bccl) : Linkable file bccl := by
  obtain ⟨linked, hlink, hasked, result, unlinked, hunlink, hgone⟩ := h fun _ => none
  rw [bwvLinkconsoles_eq] at hlink hunlink
  obtain ⟨links, hlinks⟩ := linkEach_link_exists hlink
  rw [linkEach_link hlinks] at hlink
  obtain rfl : Directory.replaceAll (linkEntries links) _ = linked :=
    congrArg Prod.snd (Option.some.inj hlink)
  obtain ⟨hfirst, hlengths⟩ := made_of_links hlinks
  have hlast : ∀ link ∈ askedLinks file bccl, lastValue link.1 links = some link.2 := by
    intro link hmem
    have hentry := hasked link hmem
    rw [linked_apply, Option.or_none] at hentry
    obtain ⟨target, htarget, heq⟩ := Option.map_eq_some_iff.mp hentry
    rw [htarget, FileEntry.symlink.inj heq]
  have hfits : ∀ link ∈ askedLinks file bccl, link.1.length < pathMax :=
    fun link hmem => hlengths _ (Directory.mem_of_lastValue (hlast link hmem))
  -- So no path was cut, and the links that were made are those that were asked for.
  obtain rfl : links = askedLinks file (bccl.take 5) :=
    List.right_unique_forall₂' (fun _ _ _ h h' => Option.some.inj (h.symm.trans h')) hlinks
      (forall₂_asked hfirst fun link hmem => hfits link (askedLinks_take 5 hmem))
  refine ⟨hfirst, hfits, hlast, ?_⟩
  obtain ⟨result', hremoved⟩ := linkEach_unlink hlinks
    (Directory.replaceAll (linkEntries (askedLinks file (bccl.take 5))) fun _ => none)
  rw [hremoved] at hunlink
  obtain rfl := congrArg Prod.snd (Option.some.inj hunlink)
  refine (Directory.removeAll_iff (asked_present hasked)).mp ?_
  intro path hpath
  obtain ⟨link, hlink, rfl⟩ := List.mem_map.mp hpath
  exact hgone link (askedLinks_take 5 hlink)

/-- The consoles are linked, and the links taken away again, exactly if there
is nothing among them that the loops cannot cope with. -/
theorem linksConsoles_iff : LinksConsoles file bccl ↔ Linkable file bccl :=
  ⟨linkable_of_linksConsoles, linksConsoles_of_linkable⟩

end

def hostConfig : BackingFile :=
  ⟨literal "/usr/local/etc/vmstated/host/config", by decide, by decide⟩

theorem not_linksConsoles : ¬∀ (file : BackingFile) (bccl : List BhyveConfigurationConsole),
    (∀ bcc ∈ bccl, bcc.name ≠ none) → LinksConsoles file bccl := by
  intro hall
  have hnamed : ∀ bcc ∈ [(⟨some (literal "com1"), true, none⟩ : BhyveConfigurationConsole)],
      bcc.name ≠ none := by simp
  obtain ⟨linked, hlink, -⟩ := hall hostConfig _ hnamed fun _ => none
  cases hlink

end Vmstated.Properties
