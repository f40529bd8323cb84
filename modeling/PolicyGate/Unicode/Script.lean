import PolicyGate.Unicode.CharSet

/-!
The script of every code point, in stretches of one script, and the scripts that characters of
several scripts are used with.
-/
namespace PolicyGate.Unicode

def scriptText : String :=
  "Zyyy41Latn1aZyyy6Latn1aZyyy2fLatn1ZyyyfLatn1Zyyy5Latn17Zyyy1Latn1fZyyy1Latn1c1Zyyy27Latn5Zyyy5
   Bopo2Zyyy14Zinh70Grek4Zyyy1Grek3Zzzz2Grek4Zyyy1Grek1Zzzz4Grek1Zyyy1Grek1Zyyy1Grek3Zzzz1Grek1Zzzz1
   Grek14Zzzz1Grek3fCopteGrek10Cyrl85Zinh2Cyrla9Zzzz1Armn26Zzzz2Armn32Zzzz2Armn3Zzzz1Hebr37Zzzz8
   Hebr1bZzzz4Hebr6ZzzzbArab5Zyyy1Arab6Zyyy1ArabeZyyy1Arab3Zyyy1Arab20Zyyy1ArabaZinhbArab1aZinh1
   Arab6cZyyy1Arab22SyrceZzzz1Syrc3cZzzz2Syrc3Arab30Thaa32ZzzzeNkoo3bZzzz2Nkoo3Samr2eZzzz2SamrfZzzz1
   Mand1cZzzz2Mand1Zzzz1SyrcbZzzz5Arab1fZzzz1Arab2Zzzz5Arab4bZyyy1Arab1dDeva51Zinh4DevafZyyy2Deva1a
   Beng4Zzzz1Beng8Zzzz2Beng2Zzzz2Beng16Zzzz1Beng7Zzzz1Beng1Zzzz3Beng4Zzzz2Beng9Zzzz2Beng2Zzzz2Beng4
   Zzzz8Beng1Zzzz4Beng2Zzzz1Beng5Zzzz2Beng19Zzzz2Guru3Zzzz1Guru6Zzzz4Guru2Zzzz2Guru16Zzzz1Guru7Zzzz1
   Guru2Zzzz1Guru2Zzzz1Guru2Zzzz2Guru1Zzzz1Guru5Zzzz4Guru2Zzzz2Guru3Zzzz3Guru1Zzzz7Guru4Zzzz1Guru1
   Zzzz7Guru11ZzzzaGujr3Zzzz1Gujr9Zzzz1Gujr3Zzzz1Gujr16Zzzz1Gujr7Zzzz1Gujr2Zzzz1Gujr5Zzzz2GujraZzzz1
   Gujr3Zzzz1Gujr3Zzzz2Gujr1ZzzzfGujr4Zzzz2GujrcZzzz7Gujr7Zzzz1Orya3Zzzz1Orya8Zzzz2Orya2Zzzz2Orya16
   Zzzz1Orya7Zzzz1Orya2Zzzz1Orya5Zzzz2Orya9Zzzz2Orya2Zzzz2Orya3Zzzz7Orya3Zzzz4Orya2Zzzz1Orya5Zzzz2
   Orya12ZzzzaTaml2Zzzz1Taml6Zzzz3Taml3Zzzz1Taml4Zzzz3Taml2Zzzz1Taml1Zzzz1Taml2Zzzz3Taml2Zzzz3Taml3
   Zzzz3TamlcZzzz4Taml5Zzzz3Taml3Zzzz1Taml4Zzzz2Taml1Zzzz6Taml1ZzzzeTaml15Zzzz5TeludZzzz1Telu3Zzzz1
   Telu17Zzzz1Telu10Zzzz2Telu9Zzzz1Telu3Zzzz1Telu4Zzzz7Telu2Zzzz1Telu3Zzzz2Telu1Zzzz2Telu4Zzzz2Telua
   Zzzz7Telu9KndadZzzz1Knda3Zzzz1Knda17Zzzz1KndaaZzzz1Knda5Zzzz2Knda9Zzzz1Knda3Zzzz1Knda4Zzzz7Knda2
   Zzzz6Knda2Zzzz1Knda4Zzzz2KndaaZzzz1Knda3ZzzzcMlymdZzzz1Mlym3Zzzz1Mlym33Zzzz1Mlym3Zzzz1Mlym6Zzzz4
   Mlym10Zzzz2Mlym1aZzzz1Sinh3Zzzz1Sinh12Zzzz3Sinh18Zzzz1Sinh9Zzzz1Sinh1Zzzz2Sinh7Zzzz3Sinh1Zzzz4
   Sinh6Zzzz1Sinh1Zzzz1Sinh8Zzzz6SinhaZzzz2Sinh3ZzzzcThai3aZzzz4Zyyy1Thai1cZzzz25Laoo2Zzzz1Laoo1
   Zzzz1Laoo5Zzzz1Laoo18Zzzz1Laoo1Zzzz1Laoo17Zzzz2Laoo5Zzzz1Laoo1Zzzz1Laoo7Zzzz1LaooaZzzz2Laoo4
   Zzzz20Tibt48Zzzz1Tibt24Zzzz4Tibt27Zzzz1Tibt24Zzzz1TibtfZzzz1Tibt7Zyyy4Tibt2Zzzz25Mymra0Geor26
   Zzzz1Geor1Zzzz5Geor1Zzzz2Geor2bZyyy1Geor4Hang100Ethi49Zzzz1Ethi4Zzzz2Ethi7Zzzz1Ethi1Zzzz1Ethi4
   Zzzz2Ethi29Zzzz1Ethi4Zzzz2Ethi21Zzzz1Ethi4Zzzz2Ethi7Zzzz1Ethi1Zzzz1Ethi4Zzzz2EthifZzzz1Ethi39
   Zzzz1Ethi4Zzzz2Ethi43Zzzz2Ethi20Zzzz3Ethi1aZzzz6Cher56Zzzz2Cher6Zzzz2Cans280Ogam1dZzzz3Runr4b
   Zyyy3RunrbZzzz7Tglg16Zzzz9Tglg1Hano15Zyyy2Zzzz9Buhd14ZzzzcTagbdZzzz1Tagb3Zzzz1Tagb2ZzzzcKhmr5e
   Zzzz2KhmraZzzz6KhmraZzzz6Mong2Zyyy2Mong1Zyyy1Mong14Zzzz6Mong59Zzzz7Mong2bZzzz5Cans46ZzzzaLimb1f
   Zzzz1LimbcZzzz4LimbcZzzz4Limb1Zzzz3LimbcTale1eZzzz2Tale5ZzzzbTalu2cZzzz4Talu1aZzzz6TalubZzzz3
   Talu2Khmr20Bugi1cZzzz2Bugi2Lana3fZzzz1Lana1dZzzz2LanabZzzz6LanaaZzzz6LanaeZzzz2Zinh1fZzzz31Bali4d
   Zzzz1Bali32Sund40Batk34Zzzz8Batk4Lepc38Zzzz3LepcfZzzz3Lepc3Olck30CyrlbZzzz5Geor2bZzzz2Geor3Sund8
   Zzzz8Zinh3Zyyy1ZinhdZyyy1Zinh7Zyyy4Zinh1Zyyy6Zinh1Zyyy3Zinh2Zyyy1Zzzz5Latn26Grek5Cyrl1Latn31Grek5
   Latn4Grek5LatndCyrl1Latn46Grek1Zinh40Latn100Grek16Zzzz2Grek6Zzzz2Grek26Zzzz2Grek6Zzzz2Grek8Zzzz1
   Grek1Zzzz1Grek1Zzzz1Grek1Zzzz1Grek1fZzzz2Grek35Zzzz1GrekfZzzz1GrekeZzzz2Grek6Zzzz1Grek13Zzzz2
   Grek3Zzzz1Grek9Zzzz1ZyyycZinh2Zyyy57Zzzz1ZyyybLatn1Zzzz2ZyyybLatn1ZyyyfZzzz1LatndZzzz3Zyyy21Zzzzf
   Zinh21ZzzzfZyyy26Grek1Zyyy3Latn2Zyyy6Latn1Zyyy1bLatn1Zyyy11Latn29Zyyy3Zzzz4Zyyy29aZzzz16Zyyyb
   Zzzz15Zyyy3a0Brai100Zyyy274Zzzz2Zyyy20Zzzz1Zyyy69Glag60Latn20Copt74Zzzz5Copt7Geor26Zzzz1Geor1
   Zzzz5Geor1Zzzz2Tfng38Zzzz7Tfng2ZzzzeTfng1Ethi17Zzzz9Ethi7Zzzz1Ethi7Zzzz1Ethi7Zzzz1Ethi7Zzzz1Ethi7
   Zzzz1Ethi7Zzzz1Ethi7Zzzz1Ethi7Zzzz1Cyrl20Zyyy5eZzzz22Hani1aZzzz1Hani59ZzzzcHanid6Zzzz1aZyyy15
   Hani1Zyyy1Hani1Zyyy19Hani9Zinh4Hang2Zyyy8Hani4Zyyy4Zzzz1Hira56Zzzz2Zinh2Zyyy2Hira3Zyyy1Kana5a
   Zyyy2Kana3Zzzz5Bopo2bZzzz1Hang5eZzzz1Zyyy10Bopo20Zyyy26Zzzz9Zyyy1Kana10Hang1fZzzz1Zyyy40Hang1f
   Zyyy51Kana2fZyyy1Kana58Zyyya8Hani19c0Zyyy40Hani5200Yiii48dZzzz3Yiii37Zzzz9Lisu30Vaii12cZzzz14
   Cyrl60Bamu58Zzzz8Zyyy22Latn66Zyyy3Latn43Zzzz2Latn2Zzzz1Latn1Zzzz1Latn8Zzzz15LatneSylo2dZzzz3Zyyya
   Zzzz6Phag38Zzzz8Saur46Zzzz8SaurcZzzz6Deva20Kali2eZyyy1Kali1Rjng24ZzzzbRjng1Hang1dZzzz3Java4eZzzz1
   Zyyy1JavaaZzzz4Java2Mymr1fZzzz1Cham37Zzzz9ChameZzzz2ChamaZzzz2Cham4Mymr20Tavt43Zzzz18Tavt5Mtei17
   ZzzzaEthi6Zzzz2Ethi6Zzzz2Ethi6Zzzz9Ethi7Zzzz1Ethi7Zzzz1Latn2bZyyy1Latn9Grek1Latn4Zyyy2Zzzz4Cher50
   Mtei2eZzzz2MteiaZzzz6Hang2ba4ZzzzcHang17Zzzz4Hang31Zzzz2104Hani16eZzzz2Hani6aZzzz26Latn7Zzzzc
   Armn5Zzzz5Hebr1aZzzz1Hebr5Zzzz1Hebr1Zzzz1Hebr2Zzzz1Hebr2Zzzz1HebraArab73Zzzz10Arab16bZyyy2Arab50
   Zzzz2Arab36Zzzz7Arab1Zzzz20Arab10Zinh10ZyyyaZzzz6ZinheCyrl2Zyyy23Zzzz1Zyyy13Zzzz1Zyyy4Zzzz4Arab5
   Zzzz1Arab87Zzzz2Zyyy1Zzzz1Zyyy20Latn1aZyyy6Latn1aZyyybKanaaZyyy1Kana2dZyyy2Hang1fZzzz3Hang6Zzzz2
   Hang6Zzzz2Hang6Zzzz2Hang3Zzzz3Zyyy7Zzzz1Zyyy7ZzzzaZyyy5Zzzz2LinbcZzzz1Linb1aZzzz1Linb13Zzzz1Linb2
   Zzzz1LinbfZzzz2LinbeZzzz22Linb7bZzzz5Zyyy3Zzzz4Zyyy2dZzzz3Zyyy9Grek4fZzzz1ZyyydZzzz3Grek1Zzzz2f
   Zyyy2dZinh1Zzzz82Lyci1dZzzz3Cari31ZzzzfZinh1Zyyy1bZzzz4Ital24Zzzz9Ital3Goth1bZzzz5Perm2bZzzz5
   Ugar1eZzzz1Ugar1Xpeo24Zzzz4XpeoeZzzz2aDsrt50Shaw30Osma1eZzzz2OsmaaZzzz6Osge24Zzzz4Osge24Zzzz4
   Elba28Zzzz8Aghb34ZzzzbAghb1VithbZzzz1VithfZzzz1Vith7Zzzz1Vith2Zzzz1VithbZzzz1VithfZzzz1Vith7Zzzz1
   Vith2Zzzz3Todr34ZzzzcLina137Zzzz9Lina16ZzzzaLina8Zzzz18Latn6Zzzz1Latn2aZzzz1Latn9Zzzz45Cprt6Zzzz2
   Cprt1Zzzz1Cprt2cZzzz1Cprt2Zzzz3Cprt1Zzzz2Cprt1Armi16Zzzz1Armi9Palm20Nbat1fZzzz8Nbat9Zzzz30Hatr13
   Zzzz1Hatr2Zzzz5Hatr5Phnx1cZzzz3Phnx1Lydi1aZzzz5Lydi1Zzzz40Mero20Merc18Zzzz4Merc14Zzzz2Merc2eKhar4
   Zzzz1Khar2Zzzz5Khar8Zzzz1Khar3Zzzz1Khar1dZzzz2Khar3Zzzz4KharaZzzz7Khar9Zzzz7Sarb20Narb20Zzzz20
   Mani27Zzzz4ManicZzzz9Avst36Zzzz3Avst7Prti16Zzzz2Prti8Phli13Zzzz5Phli8Phlp12Zzzz7Phlp4ZzzzcPhlp7
   Zzzz50Orkh49Zzzz37Hung33ZzzzdHung33Zzzz7Hung6Rohg28Zzzz8RohgaZzzz6Gara26Zzzz3Gara1dZzzz8Gara2
   Zzzzd0Arab1fZzzz1Yezi2aZzzz1Yezi3Zzzz2Yezi2Zzzz10Arab3Zzzz37Arab4Sogo28Zzzz8Sogd2aZzzz16Ougr1a
   Zzzz26Chrs1cZzzz14Elym17Zzzz9Brah4eZzzz4Brah24Zzzz9Brah1Kthi43ZzzzaKthi1Zzzz2Sora19Zzzz7Soraa
   Zzzz6Cakm35Zzzz1Cakm12Zzzz8Mahj27Zzzz9Shrd60Zzzz1Sinh14ZzzzbKhoj12Zzzz1Khoj2fZzzz3eMult7Zzzz1
   Mult1Zzzz1Mult4Zzzz1MultfZzzz1MultbZzzz6Sind3bZzzz5SindaZzzz6Gran4Zzzz1Gran8Zzzz2Gran2Zzzz2Gran16
   Zzzz1Gran7Zzzz1Gran2Zzzz1Gran5Zzzz1Zinh1Gran9Zzzz2Gran2Zzzz2Gran3Zzzz2Gran1Zzzz6Gran1Zzzz5Gran7
   Zzzz2Gran7Zzzz3Gran5ZzzzbTutgaZzzz1Tutg1Zzzz2Tutg1Zzzz1Tutg26Zzzz1TutgaZzzz1Tutg1Zzzz2Tutg1Zzzz1
   Tutg4Zzzz1TutgaZzzz1Tutg2Zzzz8Tutg2Zzzz1dNewa5cZzzz1Newa5Zzzz1eTirh48Zzzz8TirhaZzzza6Sidd36Zzzz2
   Sidd26Zzzz22Modi45ZzzzbModiaZzzz6MongdZzzz13Takr3aZzzz6TakraZzzz6Mymr14Zzzz1cAhom1bZzzz2Ahomf
   Zzzz4Ahom17Zzzzb9Dogr3cZzzz64Wara53ZzzzcWara1Diak7Zzzz2Diak1Zzzz2Diak8Zzzz1Diak2Zzzz1Diak1eZzzz1
   Diak2Zzzz2DiakcZzzz9DiakaZzzz46Nand8Zzzz2Nand2eZzzz2NandbZzzz1bZanb48Zzzz8Soyo53ZzzzdCans10Pauc39
   Zzzz7DevaaZzzzb6Sunu22ZzzzeSunuaZzzz6Bhks9Zzzz1Bhks2dZzzz1BhkseZzzzaBhks1dZzzz3Marc20Zzzz2Marc16
   Zzzz1MarceZzzz49Gonm7Zzzz1Gonm2Zzzz1Gonm2cZzzz3Gonm1Zzzz1Gonm2Zzzz1Gonm9Zzzz8GonmaZzzz6Gong6Zzzz1
   Gong2Zzzz1Gong25Zzzz1Gong2Zzzz1Gong6Zzzz7GongaZzzz136Maka19Zzzz7Kawi11Zzzz1Kawi29Zzzz3Kawi1d
   Zzzz55Lisu1ZzzzfTaml32ZzzzdTaml1Xsux39aZzzz66Xsux6fZzzz1Xsux5ZzzzbXsuxc4Zzzza4cCpmn63ZzzzdEgyp456
   ZzzzaEgypf9bZzzz5Hluw247Zzzz1ab9Gukh3aZzzz6c6Bamu239Zzzz7Mroo1fZzzz1MrooaZzzz4Mroo2Tnsa4fZzzz1
   TnsaaZzzz6Bass1eZzzz2Bass6ZzzzaHmng46ZzzzaHmngaZzzz1Hmng7Zzzz1Hmng15Zzzz5Hmng13Zzzz1b0Krai3a
   Zzzzc6Medf5bZzzz65Plrd4bZzzz4Plrd39Zzzz7Plrd11Zzzz40Tang1Nshu1Hani2Kits1ZzzzbHani2ZzzzeTang17f8
   Zzzz8Tang300Kits1d6Zzzz29Kits1Tang9Zzzz22e7Kana4Zzzz1Kana7Zzzz1Kana2Zzzz1Kana1Hira11fKana3Zzzzf
   Hira1Zzzz1dHira3Zzzz2Kana1ZzzzeKana4Zzzz8Nshu18cZzzz904Dupl6bZzzz5DupldZzzz3Dupl9Zzzz7DuplaZzzz2
   Dupl4Zyyy4Zzzzf5cZyyyfaZzzz6Zyyy1b4Zzzz4cZinh2eZzzz2Zinh17Zzzz9Zyyy74Zzzz3cZyyyf6ZzzzaZyyy27Zzzz2
   Zyyy3eZinh3Zyyy11Zinh8Zyyy2Zinh7Zyyy1eZinh4Zyyy3dZzzz15Grek46Zzzz7aZyyy14ZzzzcZyyy14ZzzzcZyyy57
   Zzzz9Zyyy19Zzzz87Zyyy55Zzzz1Zyyy47Zzzz1Zyyy2Zzzz2Zyyy1Zzzz2Zyyy2Zzzz2Zyyy4Zzzz1ZyyycZzzz1Zyyy1
   Zzzz1Zyyy7Zzzz1Zyyy41Zzzz1Zyyy4Zzzz2Zyyy8Zzzz1Zyyy7Zzzz1Zyyy1cZzzz1Zyyy4Zzzz1Zyyy5Zzzz1Zyyy1Zzzz3
   Zyyy7Zzzz1Zyyy154Zzzz2Zyyy124Zzzz2Zyyy32Sgnw28cZzzzfSgnw5Zzzz1SgnwfZzzz450Latn1fZzzz6Latn6Zzzzd5
   Glag7Zzzz1Glag11Zzzz2Glag7Zzzz1Glag2Zzzz1Glag5Zzzz5Cyrl3eZzzz21Cyrl1Zzzz70Hmnp2dZzzz3HmnpeZzzz2
   HmnpaZzzz4Hmnp2Zzzz140Toto1fZzzz11Wcho3aZzzz5Wcho1Zzzz1d0Nagm2aZzzzd6Onao2bZzzz4Onao1Zzzz1e0Ethi7
   Zzzz1Ethi4Zzzz1Ethi2Zzzz1EthifZzzz1Mendc5Zzzz2Mend10Zzzz29Adlm4cZzzz4AdlmaZzzz4Adlm2Zzzz311Zyyy44
   Zzzz4cZyyy3dZzzzc2Arab4Zzzz1Arab1bZzzz1Arab2Zzzz1Arab1Zzzz2Arab1Zzzz1ArabaZzzz1Arab4Zzzz1Arab1
   Zzzz1Arab1Zzzz6Arab1Zzzz4Arab1Zzzz1Arab1Zzzz1Arab1Zzzz1Arab3Zzzz1Arab2Zzzz1Arab1Zzzz2Arab1Zzzz1
   Arab1Zzzz1Arab1Zzzz1Arab1Zzzz1Arab1Zzzz1Arab2Zzzz1Arab1Zzzz2Arab4Zzzz1Arab7Zzzz1Arab4Zzzz1Arab4
   Zzzz1Arab1Zzzz1ArabaZzzz1Arab11Zzzz5Arab3Zzzz1Arab5Zzzz1Arab11Zzzz34Arab2Zzzz10eZyyy2cZzzz4Zyyy64
   ZzzzcZyyyfZzzz2ZyyyfZzzz1ZyyyfZzzz1Zyyy25ZzzzaZyyyaeZzzz38Zyyy1aHira1Zyyy2ZzzzdZyyy2cZzzz4Zyyy9
   Zzzz7Zyyy2ZzzzeZyyy6Zzzz9aZyyy3d8Zzzz4Zyyy11Zzzz3ZyyydZzzz3Zyyy77Zzzz4Zyyy5fZzzz6ZyyycZzzz4Zyyy1
   ZzzzfZyyycZzzz4Zyyy38Zzzz8ZyyyaZzzz6Zyyy28Zzzz8Zyyy1eZzzz2ZyyycZzzz4Zyyy2Zzzz3eZyyy154ZzzzcZyyye
   Zzzz2ZyyydZzzz3ZyyyaZzzz5Zyyy38Zzzz7ZyyyfZzzz2ZyyybZzzz6Zyyy9Zzzz7Zyyy93Zzzz1Zyyy66Zzzz406
   Hania6e0Zzzz20Hani103aZzzz6HanideZzzz2Hani1682ZzzzeHani1d31ZzzzfHani26eZzzz9a2Hani21eZzzz5e2
   Hani134bZzzz5Hani1060Zzzzadc51Zyyy1Zzzz1eZyyy60Zzzz80Zinhf0Zzzz2fe10"

/-- The stretches of one script each, in order. -/
def scriptRuns : List (String × Nat × Nat) := labelled 4 scriptText

/-- Names of scripts, in lower case without separators, with their four-letter codes. -/
def scriptNames : List (String × String) :=
  [("adlm", "Adlm"), ("adlam", "Adlm"), ("aghb", "Aghb"), ("caucasianalbanian", "Aghb"),
    ("ahom", "Ahom"), ("arab", "Arab"), ("arabic", "Arab"), ("armi", "Armi"),
    ("imperialaramaic", "Armi"), ("armn", "Armn"), ("armenian", "Armn"), ("avst", "Avst"),
    ("avestan", "Avst"), ("bali", "Bali"), ("balinese", "Bali"), ("bamu", "Bamu"),
    ("bamum", "Bamu"), ("bass", "Bass"), ("bassavah", "Bass"), ("batk", "Batk"),
    ("batak", "Batk"), ("beng", "Beng"), ("bengali", "Beng"), ("bhks", "Bhks"),
    ("bhaiksuki", "Bhks"), ("bopo", "Bopo"), ("bopomofo", "Bopo"), ("brah", "Brah"),
    ("brahmi", "Brah"), ("brai", "Brai"), ("braille", "Brai"), ("bugi", "Bugi"),
    ("buginese", "Bugi"), ("buhd", "Buhd"), ("buhid", "Buhd"), ("cakm", "Cakm"),
    ("chakma", "Cakm"), ("cans", "Cans"), ("canadianaboriginal", "Cans"), ("cari", "Cari"),
    ("carian", "Cari"), ("cham", "Cham"), ("cher", "Cher"), ("cherokee", "Cher"),
    ("chrs", "Chrs"), ("chorasmian", "Chrs"), ("copt", "Copt"), ("coptic", "Copt"),
    ("qaac", "Copt"), ("cpmn", "Cpmn"), ("cyprominoan", "Cpmn"), ("cprt", "Cprt"),
    ("cypriot", "Cprt"), ("cyrl", "Cyrl"), ("cyrillic", "Cyrl"), ("deva", "Deva"),
    ("devanagari", "Deva"), ("diak", "Diak"), ("divesakuru", "Diak"), ("dogr", "Dogr"),
    ("dogra", "Dogr"), ("dsrt", "Dsrt"), ("deseret", "Dsrt"), ("dupl", "Dupl"),
    ("duployan", "Dupl"), ("egyp", "Egyp"), ("egyptianhieroglyphs", "Egyp"), ("elba", "Elba"),
    ("elbasan", "Elba"), ("elym", "Elym"), ("elymaic", "Elym"), ("ethi", "Ethi"),
    ("ethiopic", "Ethi"), ("geor", "Geor"), ("georgian", "Geor"), ("glag", "Glag"),
    ("glagolitic", "Glag"), ("gong", "Gong"), ("gunjalagondi", "Gong"), ("gonm", "Gonm"),
    ("masaramgondi", "Gonm"), ("goth", "Goth"), ("gothic", "Goth"), ("gran", "Gran"),
    ("grantha", "Gran"), ("grek", "Grek"), ("greek", "Grek"), ("gujr", "Gujr"),
    ("gujarati", "Gujr"), ("guru", "Guru"), ("gurmukhi", "Guru"), ("hang", "Hang"),
    ("hangul", "Hang"), ("hani", "Hani"), ("han", "Hani"), ("hano", "Hano"), ("hanunoo", "Hano"),
    ("hatr", "Hatr"), ("hatran", "Hatr"), ("hebr", "Hebr"), ("hebrew", "Hebr"), ("hira", "Hira"),
    ("hiragana", "Hira"), ("hluw", "Hluw"), ("anatolianhieroglyphs", "Hluw"), ("hmng", "Hmng"),
    ("pahawhhmong", "Hmng"), ("hmnp", "Hmnp"), ("nyiakengpuachuehmong", "Hmnp"), ("hung", "Hung"),
    ("oldhungarian", "Hung"), ("ital", "Ital"), ("olditalic", "Ital"), ("java", "Java"),
    ("javanese", "Java"), ("kali", "Kali"), ("kayahli", "Kali"), ("kana", "Kana"),
    ("katakana", "Kana"), ("kawi", "Kawi"), ("khar", "Khar"), ("kharoshthi", "Khar"),
    ("khmr", "Khmr"), ("khmer", "Khmr"), ("khoj", "Khoj"), ("khojki", "Khoj"), ("kits", "Kits"),
    ("khitansmallscript", "Kits"), ("knda", "Knda"), ("kannada", "Knda"), ("kthi", "Kthi"),
    ("kaithi", "Kthi"), ("lana", "Lana"), ("taitham", "Lana"), ("laoo", "Laoo"), ("lao", "Laoo"),
    ("latn", "Latn"), ("latin", "Latn"), ("lepc", "Lepc"), ("lepcha", "Lepc"), ("limb", "Limb"),
    ("limbu", "Limb"), ("lina", "Lina"), ("lineara", "Lina"), ("linb", "Linb"),
    ("linearb", "Linb"), ("lisu", "Lisu"), ("lyci", "Lyci"), ("lycian", "Lyci"), ("lydi", "Lydi"),
    ("lydian", "Lydi"), ("mahj", "Mahj"), ("mahajani", "Mahj"), ("maka", "Maka"),
    ("makasar", "Maka"), ("mand", "Mand"), ("mandaic", "Mand"), ("mani", "Mani"),
    ("manichaean", "Mani"), ("marc", "Marc"), ("marchen", "Marc"), ("medf", "Medf"),
    ("medefaidrin", "Medf"), ("mend", "Mend"), ("mendekikakui", "Mend"), ("merc", "Merc"),
    ("meroiticcursive", "Merc"), ("mero", "Mero"), ("meroitichieroglyphs", "Mero"),
    ("mlym", "Mlym"), ("malayalam", "Mlym"), ("modi", "Modi"), ("mong", "Mong"),
    ("mongolian", "Mong"), ("mroo", "Mroo"), ("mro", "Mroo"), ("mtei", "Mtei"),
    ("meeteimayek", "Mtei"), ("mult", "Mult"), ("multani", "Mult"), ("mymr", "Mymr"),
    ("myanmar", "Mymr"), ("nagm", "Nagm"), ("nagmundari", "Nagm"), ("nand", "Nand"),
    ("nandinagari", "Nand"), ("narb", "Narb"), ("oldnortharabian", "Narb"), ("nbat", "Nbat"),
    ("nabataean", "Nbat"), ("newa", "Newa"), ("nkoo", "Nkoo"), ("nko", "Nkoo"), ("nshu", "Nshu"),
    ("nushu", "Nshu"), ("ogam", "Ogam"), ("ogham", "Ogam"), ("olck", "Olck"), ("olchiki", "Olck"),
    ("orkh", "Orkh"), ("oldturkic", "Orkh"), ("orya", "Orya"), ("oriya", "Orya"),
    ("osge", "Osge"), ("osage", "Osge"), ("osma", "Osma"), ("osmanya", "Osma"), ("ougr", "Ougr"),
    ("olduyghur", "Ougr"), ("palm", "Palm"), ("palmyrene", "Palm"), ("pauc", "Pauc"),
    ("paucinhau", "Pauc"), ("perm", "Perm"), ("oldpermic", "Perm"), ("phag", "Phag"),
    ("phagspa", "Phag"), ("phli", "Phli"), ("inscriptionalpahlavi", "Phli"), ("phlp", "Phlp"),
    ("psalterpahlavi", "Phlp"), ("phnx", "Phnx"), ("phoenician", "Phnx"), ("plrd", "Plrd"),
    ("miao", "Plrd"), ("prti", "Prti"), ("inscriptionalparthian", "Prti"), ("rjng", "Rjng"),
    ("rejang", "Rjng"), ("rohg", "Rohg"), ("hanifirohingya", "Rohg"), ("runr", "Runr"),
    ("runic", "Runr"), ("samr", "Samr"), ("samaritan", "Samr"), ("sarb", "Sarb"),
    ("oldsoutharabian", "Sarb"), ("saur", "Saur"), ("saurashtra", "Saur"), ("sgnw", "Sgnw"),
    ("signwriting", "Sgnw"), ("shaw", "Shaw"), ("shavian", "Shaw"), ("shrd", "Shrd"),
    ("sharada", "Shrd"), ("sidd", "Sidd"), ("siddham", "Sidd"), ("sind", "Sind"),
    ("khudawadi", "Sind"), ("sinh", "Sinh"), ("sinhala", "Sinh"), ("sogd", "Sogd"),
    ("sogdian", "Sogd"), ("sogo", "Sogo"), ("oldsogdian", "Sogo"), ("sora", "Sora"),
    ("sorasompeng", "Sora"), ("soyo", "Soyo"), ("soyombo", "Soyo"), ("sund", "Sund"),
    ("sundanese", "Sund"), ("sylo", "Sylo"), ("sylotinagri", "Sylo"), ("syrc", "Syrc"),
    ("syriac", "Syrc"), ("tagb", "Tagb"), ("tagbanwa", "Tagb"), ("takr", "Takr"),
    ("takri", "Takr"), ("tale", "Tale"), ("taile", "Tale"), ("talu", "Talu"),
    ("newtailue", "Talu"), ("taml", "Taml"), ("tamil", "Taml"), ("tang", "Tang"),
    ("tangut", "Tang"), ("tavt", "Tavt"), ("taiviet", "Tavt"), ("telu", "Telu"),
    ("telugu", "Telu"), ("tfng", "Tfng"), ("tifinagh", "Tfng"), ("tglg", "Tglg"),
    ("tagalog", "Tglg"), ("thaa", "Thaa"), ("thaana", "Thaa"), ("thai", "Thai"), ("tibt", "Tibt"),
    ("tibetan", "Tibt"), ("tirh", "Tirh"), ("tirhuta", "Tirh"), ("tnsa", "Tnsa"),
    ("tangsa", "Tnsa"), ("toto", "Toto"), ("ugar", "Ugar"), ("ugaritic", "Ugar"),
    ("vaii", "Vaii"), ("vai", "Vaii"), ("vith", "Vith"), ("vithkuqi", "Vith"), ("wara", "Wara"),
    ("warangciti", "Wara"), ("wcho", "Wcho"), ("wancho", "Wcho"), ("xpeo", "Xpeo"),
    ("oldpersian", "Xpeo"), ("xsux", "Xsux"), ("cuneiform", "Xsux"), ("yezi", "Yezi"),
    ("yezidi", "Yezi"), ("yiii", "Yiii"), ("yi", "Yiii"), ("zanb", "Zanb"),
    ("zanabazarsquare", "Zanb"), ("zinh", "Zinh"), ("inherited", "Zinh"), ("qaai", "Zinh"),
    ("zyyy", "Zyyy"), ("common", "Zyyy"), ("gara", "Gara"),
    ("garay", "Gara"), ("gukh", "Gukh"), ("gurungkhema", "Gukh"), ("krai", "Krai"),
    ("kiratrai", "Krai"), ("onao", "Onao"), ("olonal", "Onao"), ("sunu", "Sunu"),
    ("sunuwar", "Sunu"), ("todr", "Todr"), ("todhri", "Todr"), ("tutg", "Tutg"),
    ("tulutigalari", "Tutg")]

def scriptOf (code : String) : CharSet :=
  scriptRuns.filterMap fun (name, range) => if name == code then some range else none

def script? (name : String) : Option CharSet := (scriptNames.lookup name).map scriptOf

/-- For each script the ranges whose use with it differs from the script itself: characters of other
scripts that are used with it, and its own that are only used with others. -/
def extensionTexts : List (String × String) :=
  [("Adlm", "61f 61f 640 640 204f 204f 2e41 2e41"),
    ("Aghb", "304 304 331 331 35e 35e"),
    ("Arab", "60c 60c 61b 61b 61f 61f 640 640 64b 655 670 670 204f 204f 2e41 2e41 fd3e fd3f
       102e0 102fb"),
    ("Armn", "308 308"),
    ("Avst", "b7 b7 2e30 2e31"),
    ("Beng", "2bc 2bc 951 952 964 965 1cd0 1cd0 1cd2 1cd2 1cd5 1cd6 1cd8 1cd8 1ce1 1ce1 1cea
       1cea 1ced 1ced 1cf2 1cf2 1cf5 1cf7 a8f1 a8f1"),
    ("Bopo", "2c7 2c7 2c9 2cb 2d9 2d9 3001 3003 3008 3011 3013 301f 302a 302d 3030 3030 3037
       3037 30fb 30fb fe45 fe46 ff61 ff65"),
    ("Bugi", "a9cf a9cf"),
    ("Buhd", "1735 1736"),
    ("Cakm", "9e6 9ef 1040 1049"),
    ("Cari", "b7 b7 205a 205a 205d 205d 2e31 2e31"),
    ("Cher", "300 302 304 304 30b 30c 323 324 330 331"),
    ("Copt", "b7 b7 300 300 304 305 307 307 374 375 2e17 2e17 102e0 102fb"),
    ("Cpmn", "10100 10101"),
    ("Cprt", "10100 10102 10107 10133 10137 1013f"),
    ("Cyrl", "2bc 2bc 300 302 304 304 306 306 308 308 30b 30b 311 311 485 486 1df8 1df8 2e43
       2e43"),
    ("Deva", "2bc 2bc 951 952 964 965 1cd0 1cf6 1cf8 1cf9 20f0 20f0 a830 a839"),
    ("Dogr", "964 96f a830 a839"),
    ("Dupl", "b7 b7 307 308 30a 30a 323 324 2e3c 2e3c 1bca0 1bca3"),
    ("Elba", "b7 b7 305 305"),
    ("Ethi", "30e 30e"),
    ("Gara", "60c 60c 61b 61b 61f 61f"),
    ("Geor", "b7 b7 589 589 10fb 10fb 205a 205a 2e31 2e31"),
    ("Glag", "b7 b7 303 303 305 305 484 484 487 487 589 589 10fb 10fb 205a 205a 2e43 2e43 a66f
       a66f"),
    ("Gong", "b7 b7 964 965"),
    ("Gonm", "964 965"),
    ("Goth", "b7 b7 304 305 308 308 331 331"),
    ("Gran", "951 952 964 965 be6 bf3 1cd0 1cd0 1cd2 1cd3 1cf2 1cf4 1cf8 1cf9 20f0 20f0 1133b
       1133b 11fd0 11fd1 11fd3 11fd3"),
    ("Grek", "b7 b7 300 301 304 304 306 306 308 308 313 313 342 342 345 345 374 374 1dc0 1dc1
       205d 205d"),
    ("Gujr", "951 952 964 965 a830 a839"),
    ("Gukh", "965 965"),
    ("Guru", "951 952 964 965 a830 a839"),
    ("Hang", "3001 3003 3008 3011 3013 301f 3030 3030 3037 3037 30fb 30fb fe45 fe46 ff61 ff65"),
    ("Hani", "b7 b7 2ff0 2fff 3001 3003 3006 3006 3008 3011 3013 301f 302a 302d 3030 3030 3037
       3037 303c 303f 30fb 30fb 3190 319f 31c0 31e5 31ef 31ef 3220 3247 3280 32b0 32c0
       32cb 32ff 32ff 3358 3370 337b 337f 33e0 33fe a700 a707 fe45 fe46 ff61 ff65 1d360
       1d371 1f250 1f251"),
    ("Hano", "1735 1736"),
    ("Hebr", "307 308"),
    ("Hira", "3001 3003 3008 3011 3013 301f 3030 3035 3037 3037 303c 303d 3099 309c 30a0 30a0
       30fb 30fc fe45 fe46 ff61 ff65 ff70 ff70 ff9e ff9f"),
    ("Hung", "205a 205a 205d 205d 2e31 2e31 2e41 2e41"),
    ("Java", "a9cf a9cf"),
    ("Kali", "a92e a92e"),
    ("Kana", "305 305 323 323 3001 3003 3008 3011 3013 301f 3030 3035 3037 3037 303c 303d 3099
       309c 30a0 30a0 30fb 30fc fe45 fe46 ff61 ff65 ff70 ff70 ff9e ff9f"),
    ("Khoj", "ae6 aef a830 a839"),
    ("Knda", "951 952 964 965 1cd0 1cd0 1cd2 1cd3 1cda 1cda 1cf2 1cf2 1cf4 1cf4 a830 a835"),
    ("Kthi", "966 96f 2e31 2e31 a830 a839"),
    ("Latn", "b7 b7 2bc 2bc 2c7 2c7 2c9 2cb 2cd 2cd 2d7 2d7 2d9 2d9 300 30e 310 311 313 313 320
       320 323 325 32d 32e 330 331 358 358 35e 35e 363 36f 485 486 951 952 10fb 10fb 1df8
       1df8 202f 202f 20f0 20f0 2e17 2e17 a700 a707 a92e a92e"),
    ("Limb", "965 965"),
    ("Lina", "10107 10133"),
    ("Linb", "10100 10102 10107 10133 10137 1013f"),
    ("Lisu", "2bc 2bc 2cd 2cd 300a 300b"),
    ("Lyci", "205a 205a"),
    ("Lydi", "b7 b7 2e31 2e31"),
    ("Mahj", "b7 b7 964 96f a830 a839"),
    ("Mand", "640 640"),
    ("Mani", "640 640"),
    ("Mero", "205d 205d"),
    ("Mlym", "951 952 964 965 1cda 1cda 1cf2 1cf2 a830 a832"),
    ("Modi", "a830 a839"),
    ("Mong", "1802 1803 1805 1805 202f 202f 3001 3002 3008 300b"),
    ("Mult", "a66 a6f"),
    ("Mymr", "a92e a92e"),
    ("Nand", "964 965 ce6 cef 1ce9 1ce9 1cf2 1cf2 1cfa 1cfa a830 a835"),
    ("Nkoo", "60c 60c 61b 61b 61f 61f fd3e fd3f"),
    ("Onao", "964 965"),
    ("Orkh", "205a 205a 2e30 2e30"),
    ("Orya", "951 952 964 965 1cda 1cda 1cf2 1cf2"),
    ("Osge", "301 301 304 304 30b 30b 358 358"),
    ("Ougr", "640 640 10af2 10af2"),
    ("Perm", "b7 b7 300 300 306 308 313 313 483 483"),
    ("Phag", "1802 1803 1805 1805 202f 202f 3002 3002"),
    ("Phlp", "640 640"),
    ("Rohg", "60c 60c 61b 61b 61f 61f 640 640 6d4 6d4"),
    ("Runr", "16eb 16ed"),
    ("Samr", "2e31 2e31"),
    ("Shaw", "b7 b7"),
    ("Shrd", "951 951 1cd7 1cd7 1cd9 1cd9 1cdc 1cdd 1ce0 1ce0 a830 a835 a838 a838"),
    ("Sind", "964 965 a830 a839"),
    ("Sinh", "964 965 1cf2 1cf2"),
    ("Sogd", "640 640"),
    ("Sunu", "300 301 303 303 30d 30d 310 310 32d 32d 331 331"),
    ("Sylo", "964 965 9e6 9ef"),
    ("Syrc", "303 304 307 308 30a 30a 320 320 323 325 32d 32e 330 330 60c 60c 61b 61c 61f 61f
       640 640 64b 655 670 670 1df8 1df8 1dfa 1dfa"),
    ("Tagb", "1735 1736"),
    ("Takr", "964 965 a830 a839"),
    ("Tale", "300 301 307 308 30c 30c 1040 1049"),
    ("Taml", "951 952 964 965 1cda 1cda a8f3 a8f3 11301 11301 11303 11303 1133b 1133c"),
    ("Tang", "2ff0 2fff 31ef 31ef"),
    ("Telu", "951 952 964 965 1cda 1cda 1cf2 1cf2"),
    ("Tfng", "302 302 304 304 307 307 309 309"),
    ("Tglg", "1735 1736"),
    ("Thaa", "60c 60c 61b 61c 61f 61f 660 669 fdf2 fdf2 fdfd fdfd"),
    ("Thai", "2bc 2bc 2d7 2d7 303 303 331 331"),
    ("Tibt", "3008 300b"),
    ("Tirh", "951 952 964 965 1cf2 1cf2 a830 a839"),
    ("Todr", "301 301 304 304 307 307 311 311 313 313 35e 35e"),
    ("Toto", "2bc 2bc"),
    ("Tutg", "ce6 cef 1cf2 1cf2 1cf4 1cf4 a830 a835 a8f1 a8f1"),
    ("Yezi", "60c 60c 61b 61b 61f 61f 660 669"),
    ("Yiii", "3001 3002 3008 3011 3014 301b 30fb 30fb ff61 ff65"),
    ("Zinh", "300 30e 310 311 313 313 320 320 323 325 32d 32e 330 331 342 342 345 345 358 358
       35e 35e 363 36f 485 486 64b 655 670 670 951 952 1cd0 1cd2 1cd4 1ce0 1ce2 1ce8 1ced
       1ced 1cf4 1cf4 1cf8 1cf9 1dc0 1dc1 1df8 1df8 1dfa 1dfa 20f0 20f0 302a 302d 3099
       309a 102e0 102e0 1133b 1133b"),
    ("Zyyy", "b7 b7 2bc 2bc 2c7 2c7 2c9 2cb 2cd 2cd 2d7 2d7 2d9 2d9 374 374 60c 60c 61b 61b 61f
       61f 640 640 964 965 10fb 10fb 16eb 16ed 1735 1736 1802 1803 1805 1805 1cd3 1cd3
       1ce1 1ce1 1ce9 1cec 1cee 1cf3 1cf5 1cf7 1cfa 1cfa 202f 202f 204f 204f 205a 205a
       205d 205d 2e17 2e17 2e30 2e31 2e3c 2e3c 2e41 2e41 2e43 2e43 2ff0 2fff 3001 3003
       3006 3006 3008 3011 3013 301f 3030 3035 3037 3037 303c 303f 309b 309c 30a0 30a0
       30fb 30fc 3190 319f 31c0 31e5 31ef 31ef 3220 3247 3280 32b0 32c0 32cb 32ff 32ff
       3358 3370 337b 337f 33e0 33fe a700 a707 a830 a839 a92e a92e a9cf a9cf fd3e fd3f
       fe45 fe46 ff61 ff65 ff70 ff70 ff9e ff9f 10100 10102 10107 10133 10137 1013f 102e1
       102fb 1bca0 1bca3 1d360 1d371 1f250 1f251")]

/-- The characters used with a script. -/
def scriptExtension? (name : String) : Option CharSet := do
  let code ← scriptNames.lookup name
  let toggled := ofEnds (numbers ((extensionTexts.lookup code).getD ""))
  return CharSet.symmetricDifference (scriptOf code) toggled

end PolicyGate.Unicode
