import Corebank.Database

/-!
# Seeds

`load_seeds` of `scripts/migrate.py` over `seeds/demo_data.sql`.
-/

namespace Corebank

/-- `date.toordinal`. -/
def ordinal (year month day : Int) : Date :=
  let leap := year % 4 = 0 ∧ (year % 100 ≠ 0 ∨ year % 400 = 0)
  let past := year - 1
  let before := [0, 31, 59, 90, 120, 151, 181, 212, 243, 273, 304, 334].getD (month - 1).toNat 0
  past * 365 + past / 4 - past / 100 + past / 400 + before + (if leap ∧ 2 < month then 1 else 0) + day

def timestamp (year month day hour minute second : Int) : DateTime :=
  ⟨((ordinal year month day - 1) * 86400 + hour * 3600 + minute * 60 + second) * 1000000, none⟩

/-! ## INSERT IGNORE -/

structure InsertIgnore where
  table : Table
  rows : List (Row table)

variable [Collation]

/-- One row of an `INSERT IGNORE`: it is cut to its columns, and skipped if the constraints
refuse it. -/
def insertIgnoring (row : (t : Table) × Row t) (db : Db) : Db :=
  match verify db row.1 (store row.1 row.2) (db row.1) with
  | some _ => db
  | none => db.set row.1 (db row.1 ++ [store row.1 row.2])

def InsertIgnore.exec (s : InsertIgnore) (db : Db) : Db :=
  s.rows.foldl (fun db row => insertIgnoring ⟨s.table, row⟩ db) db

/-! ## The statements of the file -/

def branchSeeds : List (Row .branch) :=
  [{ branchId := "11111111-1111-1111-1111-111111111111", branchName := "Downtown Branch",
      addressLine1 := "1 Market St", addressLine2 := none, city := "Metropolis", zipCode := "10001",
      phoneNumber := "2125550100" },
    { branchId := "22222222-2222-2222-2222-222222222222", branchName := "Uptown Branch",
      addressLine1 := "500 High Ave", addressLine2 := some "Suite 2", city := "Metropolis",
      zipCode := "10025", phoneNumber := "2125550200" }]

def customerSeeds : List (Row .customer) :=
  [{ customerId := "a0000000-0000-0000-0000-0000000000c1", firstName := "Alice",
      lastName := "Walker", dateOfBirth := ordinal 1990 4 12, phoneNumber := "2125551001",
      email := "alice.walker@example.com", addressLine1 := "12 Oak St", addressLine2 := none,
      city := "Metropolis", zipCode := "10001", wageDeclaration := some 8200000 },
    { customerId := "a0000000-0000-0000-0000-0000000000c2", firstName := "Bob", lastName := "Stone",
      dateOfBirth := ordinal 1985 9 30, phoneNumber := "2125551002",
      email := "bob.stone@example.com", addressLine1 := "34 Pine St", addressLine2 := some "Apt 4",
      city := "Metropolis", zipCode := "10002", wageDeclaration := some 6100000 },
    { customerId := "a0000000-0000-0000-0000-0000000000c3", firstName := "Carol",
      lastName := "Reed", dateOfBirth := ordinal 1978 1 5, phoneNumber := "2125551003",
      email := "carol.reed@example.com", addressLine1 := "56 Elm St", addressLine2 := none,
      city := "Metropolis", zipCode := "10025", wageDeclaration := some 24000000 }]

def userSeeds : List (Row .user) :=
  [{ userId := "f0000000-0000-0000-0000-0000000000u1", username := "admin",
      password := "pbkdf2:sha256:1000000$tqJGZGrQlDU4dOxm$2c65fd80658f246c22b03fc84cd2a066959c9650810c6cb4c3929b8b8f316850",
      role := .admin, customerId := none },
    { userId := "f0000000-0000-0000-0000-0000000000u2", username := "alice",
      password := "pbkdf2:sha256:1000000$m2H3FRCNITT2rPxe$40520447a5492a117bba9aa4cf1c3a3dd8c7676102a51491d8cd24e1b299976f",
      role := .user, customerId := some "a0000000-0000-0000-0000-0000000000c1" },
    { userId := "f0000000-0000-0000-0000-0000000000u3", username := "bob",
      password := "pbkdf2:sha256:1000000$S2SGYk1kKz27VLPr$d412624bb9b9dbea53d7ba9c8c7b4655688c8842ebc4685f3f9a9eb1f029103a",
      role := .user, customerId := some "a0000000-0000-0000-0000-0000000000c2" }]

def accountSeeds : List (Row .account) :=
  [{ accountId := "acc00000-0000-0000-0000-000000000001",
      customerId := "a0000000-0000-0000-0000-0000000000c1", accountType := .checking,
      balance := 500000, creationDate := timestamp 2024 1 15 9 0 0,
      branchId := "11111111-1111-1111-1111-111111111111" },
    { accountId := "acc00000-0000-0000-0000-000000000002",
      customerId := "a0000000-0000-0000-0000-0000000000c1", accountType := .savings,
      balance := 1500000, creationDate := timestamp 2024 1 15 9 5 0,
      branchId := "11111111-1111-1111-1111-111111111111" },
    { accountId := "acc00000-0000-0000-0000-000000000003",
      customerId := "a0000000-0000-0000-0000-0000000000c2", accountType := .checking,
      balance := 300000, creationDate := timestamp 2024 2 20 10 0 0,
      branchId := "11111111-1111-1111-1111-111111111111" },
    { accountId := "acc00000-0000-0000-0000-000000000004",
      customerId := "a0000000-0000-0000-0000-0000000000c3", accountType := .savings,
      balance := 25000000, creationDate := timestamp 2024 3 1 11 0 0,
      branchId := "22222222-2222-2222-2222-222222222222" }]

def employeeSeeds : List (Row .employee) :=
  [{ employeeId := "e0000000-0000-0000-0000-0000000000e1",
      branchId := "11111111-1111-1111-1111-111111111111", firstName := "Dana", lastName := "Fox",
      position := "Support Agent", hireDate := timestamp 2022 5 1 9 0 0,
      phoneNumber := "2125552001", email := "dana.fox@corebank.example" },
    { employeeId := "e0000000-0000-0000-0000-0000000000e2",
      branchId := "11111111-1111-1111-1111-111111111111", firstName := "Evan", lastName := "Cole",
      position := "Support Agent", hireDate := timestamp 2022 6 1 9 0 0,
      phoneNumber := "2125552002", email := "evan.cole@corebank.example" },
    { employeeId := "e0000000-0000-0000-0000-0000000000e3",
      branchId := "11111111-1111-1111-1111-111111111111", firstName := "Faye", lastName := "Kim",
      position := "Teller", hireDate := timestamp 2022 7 1 9 0 0, phoneNumber := "2125552003",
      email := "faye.kim@corebank.example" },
    { employeeId := "e0000000-0000-0000-0000-0000000000e4",
      branchId := "11111111-1111-1111-1111-111111111111", firstName := "Gary", lastName := "Lee",
      position := "Teller", hireDate := timestamp 2022 8 1 9 0 0, phoneNumber := "2125552004",
      email := "gary.lee@corebank.example" },
    { employeeId := "e0000000-0000-0000-0000-0000000000e5",
      branchId := "11111111-1111-1111-1111-111111111111", firstName := "Hana", lastName := "Ito",
      position := "Manager", hireDate := timestamp 2021 3 1 9 0 0, phoneNumber := "2125552005",
      email := "hana.ito@corebank.example" },
    { employeeId := "e0000000-0000-0000-0000-0000000000e6",
      branchId := "11111111-1111-1111-1111-111111111111", firstName := "Ivan", lastName := "Roe",
      position := "Teller", hireDate := timestamp 2023 1 10 9 0 0, phoneNumber := "2125552006",
      email := "ivan.roe@corebank.example" },
    { employeeId := "e0000000-0000-0000-0000-0000000000e7",
      branchId := "22222222-2222-2222-2222-222222222222", firstName := "Jane", lastName := "Ash",
      position := "Manager", hireDate := timestamp 2021 9 1 9 0 0, phoneNumber := "2125552007",
      email := "jane.ash@corebank.example" }]

def cardSeeds : List (Row .card) :=
  [{ cardId := "ca000000-0000-0000-0000-0000000000d1",
      accountId := "acc00000-0000-0000-0000-000000000001", cardType := .debit,
      cardNumber := "4000123412341234", expirationDate := ordinal 2028 4 30, cvv := "123",
      status := .active },
    { cardId := "ca000000-0000-0000-0000-0000000000d2",
      accountId := "acc00000-0000-0000-0000-000000000003", cardType := .credit,
      cardNumber := "5100987698769876", expirationDate := ordinal 2027 11 30, cvv := "456",
      status := .active }]

def loanSeeds : List (Row .loan) :=
  [{ loanId := "10a00000-0000-0000-0000-0000000000l1",
      customerId := "a0000000-0000-0000-0000-0000000000c1", loanType := .home,
      principalAmount := 20000000, interestRate := 425, startDate := ordinal 2023 6 1,
      endDate := ordinal 2043 6 1, status := .active },
    { loanId := "10a00000-0000-0000-0000-0000000000l2",
      customerId := "a0000000-0000-0000-0000-0000000000c2", loanType := .auto,
      principalAmount := 3000000, interestRate := 690, startDate := ordinal 2024 1 1,
      endDate := ordinal 2029 1 1, status := .active }]

def loanPaymentSeeds : List (Row .loanPayment) :=
  [{ loanPaymentId := "90a00000-0000-0000-0000-0000000000p1",
      loanId := "10a00000-0000-0000-0000-0000000000l1", paymentDate := timestamp 2023 7 1 9 0 0,
      paymentAmount := 120000, remainingBalance := some 19880000 },
    { loanPaymentId := "90a00000-0000-0000-0000-0000000000p2",
      loanId := "10a00000-0000-0000-0000-0000000000l2", paymentDate := timestamp 2024 2 1 9 0 0,
      paymentAmount := 55000, remainingBalance := some 2945000 }]

def transactionSeeds : List (Row .transaction) :=
  [{ transactionId := "70a00000-0000-0000-0000-0000000000t1",
      fromAccountId := "acc00000-0000-0000-0000-000000000001",
      toAccountId := some "acc00000-0000-0000-0000-000000000003", transactionType := .transfer,
      amount := 20075, transactionTimestamp := timestamp 2024 4 1 12 0 0 },
    { transactionId := "70a00000-0000-0000-0000-0000000000t2",
      fromAccountId := "acc00000-0000-0000-0000-000000000004", toAccountId := none,
      transactionType := .deposit, amount := 6000000,
      transactionTimestamp := timestamp 2024 4 2 12 0 0 },
    { transactionId := "70a00000-0000-0000-0000-0000000000t3",
      fromAccountId := "acc00000-0000-0000-0000-000000000004", toAccountId := none,
      transactionType := .deposit, amount := 3000000,
      transactionTimestamp := timestamp 2024 4 3 12 0 0 }]

def creditScoreSeeds : List (Row .creditScore) :=
  [{ creditScoreId := "c5000000-0000-0000-0000-0000000000s1",
      customerId := "a0000000-0000-0000-0000-0000000000c1", score := 72000, riskCategory := "LOW",
      computedBySystem := some true },
    { creditScoreId := "c5000000-0000-0000-0000-0000000000s2",
      customerId := "a0000000-0000-0000-0000-0000000000c2", score := 64000,
      riskCategory := "MEDIUM", computedBySystem := some true },
    { creditScoreId := "c5000000-0000-0000-0000-0000000000s3",
      customerId := "a0000000-0000-0000-0000-0000000000c3", score := 80000, riskCategory := "LOW",
      computedBySystem := some true }]

def customerSupportSeeds : List (Row .customerSupport) :=
  [{ ticketId := "71c00000-0000-0000-0000-0000000000k1",
      customerId := "a0000000-0000-0000-0000-0000000000c1",
      employeeId := "e0000000-0000-0000-0000-0000000000e1",
      issueDescription := "Card declined at merchant", status := .resolved,
      createdDate := timestamp 2024 5 1 9 0 0, resolvedDate := some (timestamp 2024 5 1 15 0 0) },
    { ticketId := "71c00000-0000-0000-0000-0000000000k2",
      customerId := "a0000000-0000-0000-0000-0000000000c1",
      employeeId := "e0000000-0000-0000-0000-0000000000e1",
      issueDescription := "Dispute on transfer", status := .resolved,
      createdDate := timestamp 2024 5 10 9 0 0, resolvedDate := some (timestamp 2024 5 11 10 0 0) },
    { ticketId := "71c00000-0000-0000-0000-0000000000k3",
      customerId := "a0000000-0000-0000-0000-0000000000c2",
      employeeId := "e0000000-0000-0000-0000-0000000000e2", issueDescription := "Statement request",
      status := .resolved, createdDate := timestamp 2024 5 12 9 0 0,
      resolvedDate := some (timestamp 2024 5 12 12 0 0) },
    { ticketId := "71c00000-0000-0000-0000-0000000000k4",
      customerId := "a0000000-0000-0000-0000-0000000000c2",
      employeeId := "e0000000-0000-0000-0000-0000000000e2", issueDescription := "Address change",
      status := .open, createdDate := timestamp 2024 6 1 9 0 0, resolvedDate := none }]

def seeds : List InsertIgnore :=
  [⟨.branch, branchSeeds⟩, ⟨.customer, customerSeeds⟩, ⟨.user, userSeeds⟩,
    ⟨.account, accountSeeds⟩, ⟨.employee, employeeSeeds⟩, ⟨.card, cardSeeds⟩, ⟨.loan, loanSeeds⟩,
    ⟨.loanPayment, loanPaymentSeeds⟩, ⟨.transaction, transactionSeeds⟩,
    ⟨.creditScore, creditScoreSeeds⟩, ⟨.customerSupport, customerSupportSeeds⟩]

/-! ## Runs -/

/-- `load_seeds`, stopped before the statement after the first `n`. -/
def stoppedLoad (n : Nat) (db : Db) : Db := (seeds.take n).foldl (fun db s => s.exec db) db

def loadSeeds (db : Db) : Db := seeds.foldl (fun db s => s.exec db) db

def stoppedLoads (stops : List Nat) (db : Db) : Db := stops.foldl (fun db n => stoppedLoad n db) db

end Corebank
