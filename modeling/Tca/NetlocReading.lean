import Tca.UrlCanonicalization

/-!
# Reading network locations back

A canonical network location consists of the user information of the network
location it is written for, a host in lower case and a port.  The brackets
around an address are not written.  The file shows when the parts are read back
from what is written, and when `urlsplit` accepts it.
-/

namespace Tca

open PythonTexts UrlSplitting

section Addresses

variable {tables : UnicodeTables} {host text : List Char}

theorem splitOn_of_notMem {separator : Char} (absent : separator ∉ text) :
    text.splitOn separator = [text] := by
  have alone := List.splitOn_intercalate separator
    (show ∀ part ∈ [text], separator ∉ part by simpa using absent) (by simp)
  rwa [List.intercalate_singleton] at alone

/-- An IPv6 address has a colon. -/
theorem colon_mem_of_isIPv6 (isAddress : isIPv6 text = true) : ':' ∈ text := by
  by_contra absent
  have absentHere : ':' ∉ (partition '%' text).1 := fun member =>
    absent ((partition_fst_begins _ _).subset member)
  simp [isIPv6, splitOn_of_notMem absentHere] at isAddress

theorem isHexDigit_head {first : Char} {group : List Char}
    (hextet : isHextet (first :: group) = true) : isHexDigit first = true := by
  simp only [isHextet, List.all_cons, Bool.and_eq_true] at hextet
  exact hextet.1.2.1

theorem sideGroups_cons (first : Char) (group : List Char)
    (side : List (List Char)) :
    sideGroups (first :: group) side = some side := by
  simp [sideGroups]

/-- The first group of an address, if it is not empty. -/
theorem isHexDigit_of_areHextets {groups : List (List Char)} {first : Char}
    {group : List Char}
    (hextets : areHextets ((first :: group) :: groups) = true) :
    isHexDigit first = true := by
  unfold areHextets at hextets
  split at hextets
  · rw [Bool.and_eq_true, List.all_cons, Bool.and_eq_true] at hextets
    exact isHexDigit_head hextets.2.1
  · simp only [Nat.add_comm 1, List.take_succ_cons, List.headD_cons,
      sideGroups_cons] at hextets
    split at hextets
    · rename_i high low sameHigh sameLow
      cases sameHigh
      rw [Bool.and_eq_true, List.cons_append, List.all_cons,
        Bool.and_eq_true] at hextets
      exact isHexDigit_head hextets.2.1
    · cases hextets
  · cases hextets

/-- A bracketed host begins with a letter, a digit or a colon. -/
theorem head_of_isBracketedHost {first : Char}
    (isHost : isBracketedHost (first :: text) = true) :
    first = 'v' ∨ isHexDigit first = true ∨ first = ':' := by
  by_cases isFuture : first = 'v'
  · exact .inl isFuture
  by_cases isColon : first = ':'
  · exact .inr (.inr isColon)
  refine .inr (.inl ?_)
  have isAddress : isIPv6 (first :: text) = true := by
    rw [isBracketedHost] at isHost
    · exact isHost
    · rintro other same
      exact isFuture (List.cons.inj same).1
  simp only [isIPv6, Bool.and_eq_true, decide_eq_true_eq] at isAddress
  obtain ⟨⟨-, three⟩, groups⟩ := isAddress
  by_cases isPercent : first = '%'
  · subst isPercent
    simp [partition] at three
  · rw [partition, if_neg isPercent] at three groups
    dsimp only at three groups
    generalize (partition '%' text).1 = name at three groups
    rw [List.splitOn_cons_eq_if_modifyHead, if_neg (by simpa using isColon)]
      at three groups
    cases parts : name.splitOn ':' with
    | nil => exact absurd parts (List.splitOn_ne_nil _ _)
    | cons group others =>
        rw [parts, List.modifyHead_cons] at three groups
        unfold isIPv6Groups at groups
        split at groups
        · cases others with
          | nil => simp at three
          | cons second others =>
              rw [Bool.and_eq_true] at groups
              exact isHexDigit_of_areHextets groups.2
        · exact isHexDigit_of_areHextets groups

theorem isHexDigit_toLower {char : Char} (hex : isHexDigit char = true) :
    char.toNat < 128 ∧ isHexDigit char.toLower = true ∧ char ≠ '.' := by
  have ascii : char.toNat < 128 := by
    unfold isHexDigit PercentEncoding.hexValue? at hex
    dsimp only at hex
    split at hex
    · omega
    split at hex
    · omega
    split at hex
    · omega
    · cases hex
  exact ⟨ascii, @UnicodeTables.ascii_forall (fun char => isHexDigit char = true →
    isHexDigit char.toLower = true ∧ char ≠ '.') (by decide) char ascii
    hex⟩

/-- The text of an address of a future version. -/
structure FutureAddress (version address : List Char) : Prop where
  version_ne_nil : version ≠ []
  version_hex : ∀ char ∈ version, isHexDigit char = true
  address_ne_nil : address ≠ []
  address_line : '\n' ∉ address

theorem FutureAddress.isBracketedHost {version address : List Char}
    (isFuture : FutureAddress version address) :
    isBracketedHost ('v' :: (version ++ '.' :: address)) = true := by
  have noDot : '.' ∉ version := fun member =>
    (isHexDigit_toLower (isFuture.version_hex '.' member)).2.2 rfl
  rw [UrlSplitting.isBracketedHost, isIPvFuture, partition_append noDot]
  simp [isFuture.version_ne_nil, isFuture.address_ne_nil,
    isFuture.address_line, List.all_eq_true.mpr isFuture.version_hex]

/-- A bracketed host without colons is an address of a future version. -/
theorem futureAddress_of_isBracketedHost
    (isHost : isBracketedHost host = true) (noColon : ':' ∉ host) :
    ∃ version address, FutureAddress version address ∧
      host = 'v' :: (version ++ '.' :: address) := by
  unfold isBracketedHost at isHost
  split at isHost
  · rename_i text
    rcases partition_cases '.' text with ⟨-, parted⟩ |
      ⟨version, address, -, rfl, parted⟩
    · simp [isIPvFuture, parted] at isHost
    · simp only [isIPvFuture, parted, Bool.and_eq_true, bne_iff_ne, ne_eq,
        List.all_eq_true, Option.any_some, decide_eq_true_eq] at isHost
      obtain ⟨⟨visible, hex⟩, addressVisible, line⟩ := isHost
      exact ⟨version, address, ⟨visible, hex, addressVisible, line⟩, rfl⟩
  · exact absurd (colon_mem_of_isIPv6 isHost) noColon

/-- An ASCII text at the beginning of a host. -/
theorem canonicalHost_append (lawful : tables.LawfulCase) {first : List Char}
    (ascii : ∀ char ∈ first, char.toNat < 128) (noPercent : '%' ∉ first)
    (text : List Char) :
    ∃ rest, (text ≠ [] → rest ≠ []) ∧ (∀ char ∈ rest, isSymbol char = true → char ∈ text) ∧
      canonicalHost tables (first ++ text) =
        (first.map Char.toLower).map Char.toLower ++ rest := by
  have asciiLowered : ∀ char ∈ first.map Char.toLower, char.toNat < 128 := by
    intro char member
    obtain ⟨letter, inFirst, rfl⟩ := List.mem_map.mp member
    exact (UnicodeTables.toLower_ascii (ascii letter inFirst)).1
  rw [canonicalHost, lowerHost, partition_append_of_notMem noPercent,
    UnicodeTables.lower, UnicodeTables.lower, lawful.lowerFrom_append ascii,
    List.append_assoc, lawful.lowerFrom_append asciiLowered]
  refine ⟨_, fun visible => lawful.lowerFrom_ne_nil ?_, ?_, rfl⟩
  · intro nothing
    obtain ⟨noName, noScope⟩ := List.append_eq_nil_iff.mp nothing
    rcases partition_cases '%' text with ⟨-, parted⟩ |
      ⟨name, scope, -, rfl, parted⟩
    · rw [parted] at noName
      exact lawful.lowerFrom_ne_nil visible noName
    · rw [parted] at noScope
      cases noScope
  · intro char member symbol
    have inHost := lawful.mem_of_mem_lowerFrom member symbol
    rcases partition_cases '%' text with ⟨-, parted⟩ |
      ⟨name, scope, -, rfl, parted⟩
    · simp only [parted, marked, List.append_nil] at inHost
      exact lawful.mem_of_mem_lowerFrom inHost symbol
    · simp only [parted, marked] at inHost
      rcases List.mem_append.mp inHost with inName | inScope
      · exact List.mem_append_left _ (lawful.mem_of_mem_lowerFrom inName symbol)
      · exact List.mem_append_right _ inScope

/-- An address of a future version is one in lower case as well. -/
theorem FutureAddress.canonicalHost {version address : List Char}
    (lawful : tables.LawfulCase) (isFuture : FutureAddress version address) :
    UrlSplitting.isBracketedHost (Tca.canonicalHost tables
      ('v' :: (version ++ '.' :: address))) = true := by
  have ascii : ∀ char ∈ 'v' :: (version ++ ['.']), char.toNat < 128 := by
    intro char member
    rcases List.mem_cons.mp member with rfl | later
    · decide
    rcases List.mem_append.mp later with inVersion | isDot
    · exact (isHexDigit_toLower (isFuture.version_hex char inVersion)).1
    · rw [List.mem_singleton.mp isDot]
      decide
  have noPercent : '%' ∉ 'v' :: (version ++ ['.']) := by
    intro member
    rcases List.mem_cons.mp member with different | later
    · cases different
    rcases List.mem_append.mp later with inVersion | isDot
    · exact absurd (isFuture.version_hex '%' inVersion) (by decide)
    · cases List.mem_singleton.mp isDot
  obtain ⟨rest, visible, symbols, lowered⟩ :=
    canonicalHost_append lawful ascii noPercent address
  have whole : 'v' :: (version ++ '.' :: address) =
      'v' :: (version ++ ['.']) ++ address := by simp
  have dots : Char.toLower (Char.toLower '.') = '.' := by decide
  have letters : Char.toLower (Char.toLower 'v') = 'v' := by decide
  rw [whole, lowered]
  simp only [List.map_cons, List.map_append, List.map_nil, List.cons_append,
    List.append_assoc, List.nil_append, dots, letters]
  refine FutureAddress.isBracketedHost {
    version_ne_nil := by simpa using isFuture.version_ne_nil
    version_hex := ?_
    address_ne_nil := visible isFuture.address_ne_nil
    address_line := fun member =>
      isFuture.address_line (symbols _ member (by decide)) }
  rw [List.map_map]
  intro char member
  obtain ⟨letter, inVersion, rfl⟩ := List.mem_map.mp member
  exact (isHexDigit_toLower (isHexDigit_toLower
    (isFuture.version_hex letter inVersion)).2.1).2.1

end Addresses

section Hosts

variable {tables : UnicodeTables} {host : List Char}

theorem lowerHost_of_lowered (lowered : tables.Lowered host) :
    lowerHost tables host = host := by
  rcases partition_cases '%' host with ⟨-, parted⟩ |
    ⟨name, scope, -, rfl, parted⟩
  · rw [lowerHost, parted, UnicodeTables.lower_of_lowered lowered]
    exact List.append_nil host
  · have nameLowered : tables.Lowered name := fun char member =>
      lowered char (List.mem_append_left _ member)
    rw [lowerHost, parted, UnicodeTables.lower_of_lowered nameLowered]
    rfl

theorem canonicalHost_of_lowered (lowered : tables.Lowered host) :
    canonicalHost tables host = host := by
  rw [canonicalHost, lowerHost_of_lowered lowered,
    UnicodeTables.lower_of_lowered lowered]

/-- The symbols of a host are those of its canonical form. -/
theorem mem_canonicalHost (lawful : tables.LawfulCase) {char : Char}
    (ascii : char.toNat < 128) (notLetter : char.isAlpha = false) :
    char ∈ canonicalHost tables host ↔ char ∈ host := by
  have symbol : isSymbol char = true := by
    simp [isSymbol, ascii, notLetter]
  have stable : char.toLower = char := @UnicodeTables.ascii_forall
    (fun letter => letter.isAlpha = false → letter.toLower = letter)
    (by decide) char ascii notLetter
  constructor
  · intro member
    exact mem_lowerHost lawful symbol (lawful.mem_of_mem_lower member symbol)
  · intro member
    refine lawful.mem_lowerFrom ?_ ascii stable
    rcases partition_cases '%' host with ⟨-, parted⟩ |
      ⟨name, scope, -, rfl, parted⟩
    · rw [lowerHost, parted]
      exact List.mem_append_left _ (lawful.mem_lowerFrom member ascii stable)
    · rw [lowerHost, parted]
      rcases List.mem_append.mp member with inName | inScope
      · exact List.mem_append_left _ (lawful.mem_lowerFrom inName ascii stable)
      · exact List.mem_append_right _ inScope

theorem readPort_toDigits {number : Nat} (small : number ≤ 65535) :
    readPort (Nat.toDigits 10 number) = some number := by
  have digits : (Nat.toDigits 10 number).all Char.isDigit = true :=
    List.all_eq_true.mpr fun char member =>
      Nat.isDigit_of_mem_toDigits (by decide) (by decide) member
  have short : (Nat.toDigits 10 number).length ≤ 5 :=
    (Nat.length_toDigits_le_iff (by decide) (by decide)).mpr (by omega)
  rw [readPort, Nat.ofDigitChars_ten_toDigits, digits]
  simp only [Bool.true_and, Bool.and_eq_true, decide_eq_true_eq]
  exact if_pos ⟨by omega, small⟩

theorem readPort_le {text : List Char} {number : Nat}
    (read : readPort text = some number) : number ≤ 65535 := by
  unfold readPort at read
  split at read
  · rename_i isPort
    cases read
    simp only [Bool.and_eq_true, decide_eq_true_eq] at isPort
    exact isPort.2
  · cases read

theorem port_le {netloc : List Char} {number : Nat}
    (read : port netloc = some (some number)) : number ≤ 65535 := by
  unfold port at read
  split at read
  · cases read
  · obtain ⟨other, isPort, same⟩ := Option.map_eq_some_iff.mp read
    cases same
    exact readPort_le isPort

end Hosts

section Written

/-- What is known of the host and the port of a canonical network location. -/
structure WrittenHost (tables : UnicodeTables) (scheme host : List Char)
    (number : Option Nat) : Prop where
  lowered : tables.Lowered host
  visible : host ≠ []
  noUser : '@' ∉ host
  number_le : ∀ value ∈ number, value ≤ 65535
  number_written : writtenPort scheme number = number

variable {tables : UnicodeTables} {split : SplitResult}
  {scheme host : List Char} {info : Option (List Char)} {number : Option Nat}

theorem writtenPort_writtenPort (scheme : List Char) (number : Option Nat) :
    writtenPort scheme (writtenPort scheme number) =
      writtenPort scheme number := by
  by_cases isDefault : number = defaultPortByScheme scheme
  · simp [writtenPort, isDefault]
  · simp [writtenPort, isDefault]

theorem writtenPort_eq_some {value : Nat}
    (written : writtenPort scheme number = some value) :
    number = some value ∧ some value ≠ defaultPortByScheme scheme := by
  unfold writtenPort at written
  split at written
  · cases written
  · rename_i different
    rw [written] at different
    exact ⟨written, different⟩

theorem port_of_digits {netloc : List Char}
    (small : ∀ value ∈ number, value ≤ 65535)
    (digits : (hostinfo netloc).2 = (number.map (Nat.toDigits 10)).getD []) :
    port netloc = some number := by
  unfold port
  rw [digits]
  cases number with
  | none => rfl
  | some value =>
      have read := readPort_toDigits (small value rfl)
      rw [Option.map_some, Option.getD_some, if_neg Nat.toDigits_ne_nil, read]
      rfl

theorem notMem_digits {char : Char} (notDigit : char.isDigit = false)
    (number : Option Nat) :
    char ∉ (number.map (Nat.toDigits 10)).getD [] := by
  cases number with
  | none => exact List.not_mem_nil
  | some number =>
      intro member
      have digit := Nat.isDigit_of_mem_toDigits (by decide) (by decide) member
      rw [notDigit] at digit
      cases digit

theorem notMem_marked {char : Char} (notDigit : char.isDigit = false)
    (notColon : char ≠ ':') (number : Option Nat) :
    char ∉ marked ':' (number.map (Nat.toDigits 10)) := by
  cases number with
  | none => exact List.not_mem_nil
  | some number =>
      exact List.not_mem_cons_of_ne_of_not_mem notColon
        (notMem_digits notDigit (some number))

namespace WrittenHost

variable (written : WrittenHost tables scheme host number)

include written

theorem notMem_rest : '@' ∉ host ++ marked ':' (number.map (Nat.toDigits 10)) :=
  List.mem_append.not.mpr (not_or.mpr ⟨written.noUser,
    notMem_marked (by decide) (by decide) number⟩)

theorem userinfo_eq : userinfo (writeNetloc info host number) = info := by
  rw [userinfo, writeNetloc, rpartition_atUser written.notMem_rest]

theorem hostinfo_eq (noBracket : '[' ∉ host) :
    hostinfo (writeNetloc info host number) =
      ((partition ':' host).1,
        (((partition ':' host).2.map fun tail =>
          tail ++ marked ':' (number.map (Nat.toDigits 10))).getD
            ((number.map (Nat.toDigits 10)).getD []))) := by
  have noBracketRest : '[' ∉
      host ++ marked ':' (number.map (Nat.toDigits 10)) :=
    List.mem_append.not.mpr (not_or.mpr ⟨noBracket,
      notMem_marked (by decide) (by decide) number⟩)
  rw [writeNetloc, hostinfo_atUser written.notMem_rest noBracketRest]
  rcases partition_cases ':' host with ⟨noColon, parted⟩ |
    ⟨name, tail, noColon, rfl, parted⟩
  · rw [parted]
    cases number with
    | none =>
        rw [Option.map_none, marked, List.append_nil, parted]
        rfl
    | some number =>
        rw [Option.map_some, marked, partition_append noColon]
        rfl
  · rw [parted, List.append_assoc, List.cons_append, partition_append noColon]
    rfl

theorem lowered_name : canonicalHost tables (partition ':' host).1 =
    (partition ':' host).1 :=
  canonicalHost_of_lowered fun char member =>
    written.lowered char ((partition_fst_begins _ _).subset member)

theorem hostname_eq (noBracket : '[' ∉ host)
    (visible : (partition ':' host).1 ≠ []) :
    hostname tables (writeNetloc info host number) =
      some (partition ':' host).1 := by
  have hosts := @hostinfo_eq tables scheme host info number written noBracket
  have lowered : tables.Lowered (partition ':' host).1 := fun char member =>
    written.lowered char ((partition_fst_begins _ _).subset member)
  rw [hostname, hosts, if_neg visible, lowerHost_of_lowered lowered]

/-- When a canonical network location is its own canonical form. -/
theorem canonicalizeNetloc_iff (noBracket : '[' ∉ host)
    (sameNetloc : split.netloc = writeNetloc info host number) :
    canonicalizeNetloc tables split scheme = some split.netloc ↔
      (partition ':' host).1 ≠ [] ∧
        ∀ tail, (partition ':' host).2 = some tail →
          number = none ∧ ∃ value ≤ 65535,
            some value ≠ defaultPortByScheme scheme ∧
              tail = Nat.toDigits 10 value := by
  rw [canonicalizeNetloc_eq_some, sameNetloc, written.userinfo_eq]
  have hosts := @hostinfo_eq tables scheme host info number written noBracket
  have names := written.lowered_name
  rcases partition_cases ':' host with ⟨noColon, parted⟩ |
    ⟨name, tail, noColon, rfl, parted⟩
  · rw [parted] at hosts names ⊢
    have ports := port_of_digits written.number_le
      (show (hostinfo (writeNetloc info host number)).2 = _ by rw [hosts]; rfl)
    constructor
    · intro _
      refine ⟨written.visible, ?_⟩
      intro tail isTail
      cases isTail
    · intro _
      refine ⟨number, ?_, ports, ?_⟩
      · rw [hosts]
        exact written.visible
      · rw [hosts]
        exact congrArg₂ _ names.symm written.number_written.symm
  · rw [parted] at hosts names ⊢
    constructor
    · rintro ⟨other, visible, read, same⟩
      rw [hosts] at visible same
      refine ⟨visible, fun rest isTail => ?_⟩
      cases isTail
      have sameTail : ':' :: (tail ++ marked ':' (number.map (Nat.toDigits 10)))
          = marked ':' ((writtenPort scheme other).map (Nat.toDigits 10)) := by
        simpa [writeNetloc, names] using same
      cases isWritten : writtenPort scheme other with
      | none =>
          rw [isWritten] at sameTail
          cases sameTail
      | some value =>
          obtain ⟨rfl, different⟩ := writtenPort_eq_some isWritten
          rw [isWritten] at sameTail
          have digits : tail ++ marked ':' (number.map (Nat.toDigits 10)) =
              Nat.toDigits 10 value := (List.cons.inj sameTail).2
          have noPort : number = none := by
            cases number with
            | none => rfl
            | some extra =>
                have colon : ':' ∈ Nat.toDigits 10 value := by
                  rw [← digits]
                  simp [marked]
                exact absurd colon (notMem_digits (by decide) (some value))
          rw [noPort] at digits
          refine ⟨noPort, value, port_le read, different, ?_⟩
          rw [← digits]
          exact (List.append_nil tail).symm
    · rintro ⟨visible, readable⟩
      obtain ⟨rfl, value, small, different, rfl⟩ := readable tail rfl
      have notDefault : writtenPort scheme (some value) = some value :=
        if_neg different
      refine ⟨some value, ?_, port_of_digits ?_ ?_, ?_⟩
      · rw [hosts]
        exact visible
      · rintro other ⟨⟩
        exact small
      · rw [hosts]
        exact List.append_nil _
      · rw [hosts, names, notDefault]
        simp [writeNetloc, marked]

end WrittenHost

end Written

section Validity

variable {tables : UnicodeTables} {scheme netloc host text : List Char}
  {info : Option (List Char)} {number : Option Nat}

theorem isValidNetloc_iff :
    isValidNetloc netloc = true ↔
      ('[' ∈ netloc ↔ ']' ∈ netloc) ∧
        ('[' ∈ netloc → checkBracketedNetloc netloc = true) ∧
        ∀ char ∈ netloc, char.toNat ∉ nfkcDelimiters := by
  rw [isValidNetloc, Bool.and_eq_true, List.all_eq_true, ← and_assoc]
  refine and_congr ?_ (by simp only [decide_eq_true_eq])
  by_cases opening : '[' ∈ netloc
  · by_cases closing : ']' ∈ netloc
    · simp [opening, closing]
    · simp [opening, closing]
  · by_cases closing : ']' ∈ netloc
    · simp [opening, closing]
    · simp [opening, closing]

theorem checkBracketedNetloc_atUser (noUser : '@' ∉ text)
    (noBracket : '[' ∉ text) :
    checkBracketedNetloc (atUser info ++ text) =
      isBracketedHost (partition ':' text).1 := by
  simp only [checkBracketedNetloc, rpartition_atUser noUser,
    partition_of_notMem noBracket]

/-- A host in brackets. -/
theorem bracketed_of_check (opening : '[' ∈ (rpartition '@' netloc).2)
    (checked : checkBracketedNetloc netloc = true) :
    isBracketedHost (hostinfo netloc).1 = true ∧ ']' ∉ (hostinfo netloc).1 := by
  rcases partition_cases '[' (rpartition '@' netloc).2 with ⟨absent, -⟩ |
    ⟨before, bracketed, -, -, parted⟩
  · exact absurd opening absent
  · simp only [checkBracketedNetloc, parted, Bool.and_eq_true] at checked
    simp only [hostinfo, parted]
    exact ⟨checked.2, notMem_partition_fst _ _⟩

/-- The brackets of a canonical network location. -/
theorem WrittenHost.brackets_iff
    (written : WrittenHost tables scheme host number) (noBracket : '[' ∉ host) :
    (('[' ∈ writeNetloc info host number ↔
        ']' ∈ writeNetloc info host number) ∧
      ('[' ∈ writeNetloc info host number →
        checkBracketedNetloc (writeNetloc info host number) = true)) ↔
      (('[' ∈ atUser info ↔ ']' ∈ atUser info ∨ ']' ∈ host) ∧
        ('[' ∈ atUser info →
          isBracketedHost (partition ':' host).1 = true)) := by
  have noOpening := notMem_marked (show '['.isDigit = false by decide)
    (by decide) number
  have noClosing := notMem_marked (show ']'.isDigit = false by decide)
    (by decide) number
  have noBracketRest : '[' ∉
      host ++ marked ':' (number.map (Nat.toDigits 10)) :=
    List.mem_append.not.mpr (not_or.mpr ⟨noBracket, noOpening⟩)
  have names := congrArg Prod.fst (@hostinfo_eq tables scheme host info number
    written noBracket)
  rw [writeNetloc, hostinfo_atUser written.notMem_rest noBracketRest] at names
  have sameName : (partition ':' (host ++
      marked ':' (number.map (Nat.toDigits 10)))).1 = (partition ':' host).1 :=
    names
  rw [writeNetloc, checkBracketedNetloc_atUser written.notMem_rest
    noBracketRest, sameName]
  simp only [List.mem_append, noOpening, noClosing, noBracket, or_false]

/-- A host that was in brackets is read back without them: what is before its
first colon is a host, and what follows is the only port. -/
structure ReadsWithoutBrackets (scheme : List Char) (info : Option (List Char))
    (host : List Char) (number : Option Nat) : Prop where
  user_balanced : '[' ∈ atUser info ↔ ']' ∈ atUser info
  host_plain : '[' ∉ host
  name_visible : (partition ':' host).1 ≠ []
  name_allowed : '[' ∈ atUser info →
    isBracketedHost (partition ':' host).1 = true
  tail_port : ∀ tail, (partition ':' host).2 = some tail →
    number = none ∧ ∃ value ≤ 65535,
      some value ≠ defaultPortByScheme scheme ∧ tail = Nat.toDigits 10 value

variable {split : SplitResult} {given : Option Nat}
  (lawful : tables.LawfulCase)

include lawful

theorem writtenHost (scheme : List Char) (visible : (hostinfo netloc).1 ≠ [])
    (read : port netloc = some given) :
    WrittenHost tables scheme (canonicalHost tables (hostinfo netloc).1)
      (writtenPort scheme given) where
  lowered := lawful.lowered_lower _
  visible := by
    obtain ⟨rest, visibleRest, -, same⟩ := @canonicalHost_append tables lawful
      [] nofun List.not_mem_nil (hostinfo netloc).1
    rw [List.nil_append] at same
    rw [same]
    exact visibleRest visible
  noUser := by
    rw [mem_canonicalHost lawful (by decide) (by decide)]
    exact fun member => (netloc_eq netloc).2 (mem_hostinfo member)
  number_le := by
    rintro value isWritten
    obtain ⟨rfl, -⟩ := writtenPort_eq_some isWritten
    exact port_le read
  number_written := writtenPort_writtenPort scheme given

theorem nfkc_free (valid : isValidNetloc netloc = true) (number : Option Nat) :
    ∀ char ∈ writeNetloc (userinfo netloc)
      (canonicalHost tables (hostinfo netloc).1) number,
      char.toNat ∉ nfkcDelimiters := by
  have large : ∀ code ∈ nfkcDelimiters, 128 ≤ code := by decide
  have symbols : ∀ char : Char, decide (char.toNat ∈ nfkcDelimiters) = true →
      isSymbol char = true ∧ char ≠ ':' ∧ char.isDigit = false := by
    intro char delimiter
    have notAscii := large _ (of_decide_eq_true delimiter)
    refine ⟨by simp [isSymbol, of_decide_eq_true delimiter], ?_, ?_⟩
    · rintro rfl
      exact absurd notAscii (by decide)
    · rw [← Bool.not_eq_true]
      intro digit
      have codes := UnicodeTables.codes_of_isDigit digit
      omega
  have free := (isValidNetloc_iff.mp valid).2.2
  intro char member
  exact of_decide_eq_false (writeNetloc_free lawful symbols
    (fun char inNetloc => decide_eq_false (free char inNetloc)) char member)

/-- The canonical host begins with no bracket. -/
theorem head_canonicalHost (isHost : isBracketedHost host = true) :
    (canonicalHost tables host).head? ≠ some '[' := by
  cases host with
  | nil => exact nofun
  | cons first text =>
      have ascii : first.toNat < 128 := by
        rcases head_of_isBracketedHost isHost with rfl | hex | rfl
        · decide
        · exact (isHexDigit_toLower hex).1
        · decide
      have different : first ≠ '%' ∧ first.toLower.toLower ≠ '[' := by
        rcases head_of_isBracketedHost isHost with rfl | hex | rfl
        · decide
        · exact @UnicodeTables.ascii_forall (fun char => isHexDigit char = true →
            char ≠ '%' ∧ char.toLower.toLower ≠ '[') (by decide) first
            ascii hex
        · decide
      obtain ⟨rest, -, -, same⟩ := @canonicalHost_append tables lawful [first]
        (List.forall_mem_singleton.mpr ascii)
        (fun member => different.1 (List.mem_singleton.mp member).symm) text
      rw [List.singleton_append] at same
      rw [same]
      intro bracket
      exact different.2 (Option.some.inj bracket)

omit lawful in
/-- The text of a port has digits only. -/
theorem digits_of_port {char : Char} (read : port netloc = some given)
    (member : char ∈ (hostinfo netloc).2) : char.isDigit = true := by
  unfold port at read
  split at read
  · rename_i noPort
    rw [noPort] at member
    cases member
  · obtain ⟨value, isPort, -⟩ := Option.map_eq_some_iff.mp read
    unfold readPort at isPort
    split at isPort
    · rename_i allowed
      simp only [Bool.and_eq_true, List.all_eq_true] at allowed
      exact allowed.1.1 char member
    · cases isPort

omit lawful in
/-- A host without brackets and its port. -/
theorem hostinfo_plain (noBracket : '[' ∉ (rpartition '@' netloc).2) :
    ':' ∉ (hostinfo netloc).1 ∧
      ∀ char ∈ (rpartition '@' netloc).2, char ≠ ':' →
        char ∈ (hostinfo netloc).1 ∨ char ∈ (hostinfo netloc).2 := by
  simp only [hostinfo, partition_of_notMem noBracket]
  refine ⟨notMem_partition_fst _ _, fun char member notColon => ?_⟩
  rcases partition_cases ':' (rpartition '@' netloc).2 with ⟨-, parted⟩ |
    ⟨name, tail, -, rest, parted⟩
  · rw [parted]
    exact .inl member
  · rw [parted]
    rw [rest] at member
    rcases List.mem_append.mp member with inName | later
    · exact .inl inName
    · rcases List.mem_cons.mp later with isColon | inTail
      · exact absurd isColon notColon
      · exact .inr inTail

omit lawful in
/-- An accepted host with a bracket begins with one. -/
theorem head_of_bracket (written : WrittenHost tables scheme host number)
    (inHost : '[' ∈ host)
    (valid : isValidNetloc (writeNetloc info host number) = true) :
    host.head? = some '[' := by
  obtain ⟨-, checked, -⟩ := isValidNetloc_iff.mp valid
  have inNetloc : '[' ∈ writeNetloc info host number :=
    List.mem_append_right _ (List.mem_append_left _ inHost)
  have check := checked inNetloc
  obtain ⟨before, after, rfl, absent⟩ := List.eq_append_cons_of_mem inHost
  rw [writeNetloc] at check
  simp only [checkBracketedNetloc, rpartition_atUser written.notMem_rest]
    at check
  simp only [List.append_assoc, List.cons_append, partition_append absent,
    Bool.and_eq_true, decide_eq_true_eq] at check
  rw [check.1.1]
  rfl

/-- A host without brackets is read back. -/
theorem readsBack_plain (valid : isValidNetloc netloc = true)
    (visible : (hostinfo netloc).1 ≠ []) (read : port netloc = some given)
    (noBracket : '[' ∉ (rpartition '@' netloc).2)
    (sameNetloc : split.netloc = writeNetloc (userinfo netloc)
      (canonicalHost tables (hostinfo netloc).1) (writtenPort scheme given)) :
    isValidNetloc split.netloc = true ∧
      canonicalizeNetloc tables split scheme = some split.netloc := by
  have written := writtenHost lawful scheme visible read
  obtain ⟨noColon, restChars⟩ := hostinfo_plain noBracket
  have noBracketHost : '[' ∉ canonicalHost tables (hostinfo netloc).1 := by
    rw [mem_canonicalHost lawful (by decide) (by decide)]
    exact fun member => noBracket (mem_hostinfo member)
  have noColonHost : ':' ∉ canonicalHost tables (hostinfo netloc).1 := by
    rwa [mem_canonicalHost lawful (by decide) (by decide)]
  have parted := partition_of_notMem noColonHost
  obtain ⟨balanced, checked, -⟩ := isValidNetloc_iff.mp valid
  obtain ⟨whole, noUser⟩ := netloc_eq netloc
  have openings : '[' ∈ netloc ↔ '[' ∈ atUser (userinfo netloc) := by
    conv_lhs => rw [whole]
    rw [List.mem_append, or_iff_left noBracket]
  have closings : ']' ∈ netloc ↔ ']' ∈ atUser (userinfo netloc) ∨
      ']' ∈ canonicalHost tables (hostinfo netloc).1 := by
    rw [mem_canonicalHost lawful (by decide) (by decide)]
    conv_lhs => rw [whole]
    rw [List.mem_append]
    refine or_congr_right ⟨fun member => ?_, mem_hostinfo⟩
    rcases restChars ']' member (by decide) with inHost | inPort
    · exact inHost
    · exact absurd (digits_of_port read inPort) (by decide)
  constructor
  · rw [sameNetloc, isValidNetloc_iff, ← and_assoc,
      written.brackets_iff noBracketHost]
    refine ⟨⟨by rw [← openings, ← closings, balanced], fun opening => ?_⟩,
      nfkc_free lawful valid _⟩
    have isHost := checked (openings.mpr opening)
    rw [whole, checkBracketedNetloc_atUser noUser noBracket] at isHost
    have sameHost : (hostinfo netloc).1 =
        (partition ':' (rpartition '@' netloc).2).1 := by
      simp only [hostinfo, partition_of_notMem noBracket]
    rw [← sameHost] at isHost
    obtain ⟨version, address, isFuture, host⟩ :=
      futureAddress_of_isBracketedHost isHost noColon
    rw [parted, host]
    exact isFuture.canonicalHost lawful
  · rw [written.canonicalizeNetloc_iff noBracketHost sameNetloc, parted]
    refine ⟨written.visible, ?_⟩
    intro tail isTail
    cases isTail

/-- When a canonical network location is accepted and its own canonical form. -/
theorem readsBack_iff (valid : isValidNetloc netloc = true)
    (visible : (hostinfo netloc).1 ≠ []) (read : port netloc = some given)
    (sameNetloc : split.netloc = writeNetloc (userinfo netloc)
      (canonicalHost tables (hostinfo netloc).1) (writtenPort scheme given)) :
    (isValidNetloc split.netloc = true ∧
      canonicalizeNetloc tables split scheme = some split.netloc) ↔
      ('[' ∈ (rpartition '@' netloc).2 →
        ReadsWithoutBrackets scheme (userinfo netloc)
          (canonicalHost tables (hostinfo netloc).1)
          (writtenPort scheme given)) := by
  by_cases opening : '[' ∈ (rpartition '@' netloc).2
  · have written := writtenHost lawful scheme visible read
    obtain ⟨-, checked, -⟩ := isValidNetloc_iff.mp valid
    obtain ⟨isHost, noClosing⟩ :=
      bracketed_of_check opening (checked (mem_netloc opening))
    have noClosingHost : ']' ∉ canonicalHost tables (hostinfo netloc).1 := by
      rwa [mem_canonicalHost lawful (by decide) (by decide)]
    rw [forall_prop_of_true opening]
    by_cases inHost : '[' ∈ canonicalHost tables (hostinfo netloc).1
    · constructor
      · rintro ⟨validAgain, -⟩
        rw [sameNetloc] at validAgain
        exact absurd (head_of_bracket written inHost validAgain)
          (head_canonicalHost lawful isHost)
      · exact fun reads => absurd inHost reads.host_plain
    · have brackets := @WrittenHost.brackets_iff tables scheme _
        (userinfo netloc) _ written inHost
      rw [written.canonicalizeNetloc_iff inHost sameNetloc, sameNetloc,
        isValidNetloc_iff]
      constructor
      · rintro ⟨⟨balanced, checkedAgain, -⟩, visibleName, tailPort⟩
        obtain ⟨balancedUser, allowed⟩ := brackets.mp ⟨balanced, checkedAgain⟩
        exact {
          user_balanced := by rwa [or_iff_left noClosingHost] at balancedUser
          host_plain := inHost
          name_visible := visibleName
          name_allowed := allowed
          tail_port := tailPort }
      · intro reads
        obtain ⟨balanced, checkedAgain⟩ := brackets.mpr ⟨by
          rw [or_iff_left noClosingHost]
          exact reads.user_balanced, reads.name_allowed⟩
        exact ⟨⟨balanced, checkedAgain, nfkc_free lawful valid _⟩,
          reads.name_visible, reads.tail_port⟩
  · exact ⟨fun _ absent => absurd absent opening, fun _ =>
      readsBack_plain lawful valid visible read opening sameNetloc⟩

end Validity

end Tca
