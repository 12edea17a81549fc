/-!
# The lexicon of inflection

English nouns whose number does not follow their ending, and the endings that whole families of
nouns share.
-/

namespace Tablewright.Naming.Lexicon

/-- Nouns that are the same in the singular and the plural. -/
def invariable : List String :=
  ["tuna", "salmon", "mackerel", "trout", "bream", "sea-bass", "carp", "cod", "flounder",
    "whiting", "moose", "graffiti", "djinn", "samuri", "offspring", "pence", "quid", "hertz",
    "breeches", "britches", "pajamas", "pyjamas", "clippers", "gallows", "hijinks",
    "headquarters", "pliers", "scissors", "testes", "herpes", "pincers", "shears",
    "proceedings", "trousers", "cantus", "coitus", "nexus", "contretemps", "corps", "debris",
    "siemens", "mumps", "diabetes", "jackanapes", "series", "species", "subspecies", "rabies",
    "chassis", "innings", "news", "mews", "haggis"]

/-- Endings of nouns that are the same in the singular and the plural. -/
def invariableEndings : List String :=
  ["butter", "cash", "furniture", "information", "equipment", "fish", "deer", "sheep", "nese",
    "rese", "lese", "mese", "pox", "craft", "ois", "measles"]

/-- Singulars in `us` that are never taken for plurals. -/
def lastingUs : List String :=
  ["status", "apparatus", "prospectus", "sinus", "hiatus", "impetus", "plexus"]

/-- Words with a form of their own for several persons or things. -/
def pronouns : List (String × String) :=
  [("i", "we"), ("myself", "ourselves"), ("you", "you"), ("yourself", "yourselves"),
    ("she", "they"), ("herself", "themselves"), ("he", "they"), ("himself", "themselves"),
    ("it", "they"), ("itself", "themselves"), ("they", "they"), ("themself", "themselves"),
    ("mine", "ours"), ("yours", "yours"), ("hers", "theirs"), ("his", "theirs"),
    ("its", "theirs"), ("theirs", "theirs"), ("me", "us"), ("her", "them"), ("him", "them"),
    ("them", "them")]

/-- The single person or thing of a pronoun for several. -/
def pronounSingulars : List (String × String) :=
  [("we", "i"), ("ourselves", "myself"), ("you", "you"), ("yourselves", "yourself"),
    ("they", "it"), ("themselves", "itself"), ("ours", "mine"), ("yours", "yours"),
    ("theirs", "its"), ("us", "me"), ("them", "it")]

/-- Nouns with a plural of their own: the one in use, then those that are recognized too. -/
def irregular : List (String × List String) :=
  [("child", ["children"]), ("chili", ["chilis", "chilies"]),
    ("brother", ["brothers", "brethren"]), ("infinity", ["infinities", "infinity"]),
    ("loaf", ["loaves"]), ("lore", ["lores", "lore"]), ("hoof", ["hoofs", "hooves"]),
    ("beef", ["beefs", "beeves"]), ("thief", ["thiefs", "thieves"]), ("money", ["monies"]),
    ("mongoose", ["mongooses"]), ("ox", ["oxen"]), ("cow", ["cows", "kine"]),
    ("graffito", ["graffiti"]), ("octopus", ["octopuses", "octopodes"]),
    ("genie", ["genies", "genii"]), ("ganglion", ["ganglions", "ganglia"]),
    ("trilby", ["trilbys"]), ("turf", ["turfs", "turves"]), ("numen", ["numina"]),
    ("atman", ["atmas"]), ("occiput", ["occiputs", "occipita"]),
    ("sabretooth", ["sabretooths"]), ("sabertooth", ["sabertooths"]),
    ("lowlife", ["lowlifes"]), ("flatfoot", ["flatfoots"]), ("tenderfoot", ["tenderfoots"]),
    ("romany", ["romanies"]), ("jerry", ["jerries"]), ("mary", ["maries"]),
    ("talouse", ["talouses"]), ("rom", ["roma"]), ("carmen", ["carmina"]),
    ("corpus", ["corpuses", "corpora"]), ("opus", ["opuses", "opera"]), ("genus", ["genera"]),
    ("mythos", ["mythoi"]), ("penis", ["penises", "penes"]), ("testis", ["testes"]),
    ("atlas", ["atlases", "atlantes"]), ("yes", ["yeses"])]

/-- Nouns in `man` that only add an `s`. -/
def regularMan : List String :=
  ["ataman", "caiman", "cayman", "ceriman", "desman", "dolman", "farman", "harman", "hetman",
    "human", "leman", "ottoman", "shaman", "talisman"]

/-- The kinds of louse. -/
def lice : List String :=
  ["booklouse", "grapelouse", "louse", "woodlouse"]

/-- Nouns in a hard `ch`. -/
def hardCh : List String :=
  ["czech", "eunuch", "stomach"]

/-- Nouns that change `ex` to `ices`. -/
def exToIces : List String :=
  ["codex", "murex", "silex"]

/-- Nouns that change `ix` to `ices`. -/
def ixToIces : List String :=
  ["radix", "helix"]

/-- Nouns that change `um` to `a`. -/
def umToA : List String :=
  ["bacterium", "agendum", "desideratum", "erratum", "stratum", "datum", "ovum", "extremum",
    "candelabrum"]

/-- Nouns that change `us` to `i`. -/
def usToI : List String :=
  ["alumnus", "alveolus", "bacillus", "bronchus", "locus", "nucleus", "stimulus", "meniscus",
    "sarcophagus"]

/-- Nouns that change `on` to `a`. -/
def onToA : List String :=
  ["criterion", "perihelion", "aphelion", "phenomenon", "prolegomenon", "noumenon", "organon",
    "asyndeton", "hyperbaton"]

/-- Nouns that change `a` to `ae`. -/
def aToAe : List String :=
  ["alumna", "alga", "vertebra", "persona", "vita"]

/-- Plurals of nouns in `use`. -/
def pluralsOfUse : List String :=
  ["abuses", "applauses", "blouses", "carouses", "causes", "chartreuses", "clauses",
    "contuses", "douses", "excuses", "fuses", "grouses", "hypotenuses", "masseuses",
    "menopauses", "misuses", "muses", "overuses", "pauses", "peruses", "profuses", "recluses",
    "reuses", "ruses", "souses", "spouses", "suffuses", "transfuses", "uses"]

/-- Plurals of nouns in `ie`. -/
def pluralsOfIe : List String :=
  ["aeries", "baggies", "belies", "biggies", "birdies", "bogies", "bonnies", "boogies",
    "bookies", "bourgeoisies", "brownies", "budgies", "caddies", "calories", "camaraderies",
    "cockamamies", "collies", "cookies", "coolies", "cooties", "coteries", "crappies", "curies",
    "cutesies", "dogies", "eyries", "floozies", "footsies", "freebies", "genies", "goalies",
    "groupies", "hies", "jalousies", "junkies", "kiddies", "laddies", "lassies", "lies",
    "lingeries", "magpies", "menageries", "mommies", "movies", "neckties", "newbies",
    "nighties", "oldies", "organdies", "overlies", "pies", "pinkies", "pixies", "potpies",
    "prairies", "quickies", "reveries", "rookies", "rotisseries", "softies", "sorties",
    "species", "stymies", "sweeties", "ties", "underlies", "unties", "veggies", "vies",
    "yuppies", "zombies"]

/-- Plurals of nouns in `oe`. -/
def pluralsOfOe : List String :=
  ["aloes", "backhoes", "canoes", "does", "floes", "foes", "hoes", "mistletoes", "oboes",
    "pekoes", "roes", "sloes", "throes", "tiptoes", "toes", "woes"]

/-- Plurals of nouns in `sse`. -/
def pluralsOfSse : List String :=
  ["bouillabaisses", "crevasses", "demitasses", "impasses", "mousses", "posses"]

/-- Singulars in `s` that add `es`. -/
def singularS : List String :=
  ["acropolis", "aegis", "alias", "asbestos", "bathos", "bias", "bronchitis", "bursitis",
    "caddis", "cannabis", "canvas", "chaos", "christmas", "cosmos", "dais", "digitalis",
    "epidermis", "ethos", "eyas", "gas", "glottis", "hubris", "ibis", "lens", "mantis",
    "marquis", "metropolis", "pathos", "pelvis", "polis", "rhinoceros", "sassafras", "trellis",
    "ephemeris", "iris", "clitoris", "chrysalis", "epididymis"]

/-- Endings of singulars in `s` that add `es`. -/
def singularSEndings : List String :=
  ["ss", "us", "itis"]

/-- Nouns in `z` that add `es` without a second `z`. -/
def singleZ : List String :=
  ["quartz", "topaz"]

/-- Plurals of nouns in `zz`. -/
def pluralsOfZz : List String :=
  ["buzzes", "fizzes", "frizzes", "razzes"]

/-- Plurals of nouns in `che`. -/
def pluralsOfChe : List String :=
  ["aches", "avalanches", "backaches", "bellyaches", "caches", "cloches", "creches", "douches",
    "earaches", "fiches", "headaches", "heartaches", "microfiches", "niches", "pastiches",
    "psyches", "quiches", "stomachaches", "toothaches", "tranches"]

/-- Plurals of nouns in `xe`. -/
def pluralsOfXe : List String :=
  ["annexes", "axes", "deluxes", "pickaxes"]

/-- Plurals of nouns in `ve`. -/
def pluralsOfVe : List String :=
  ["olives", "interweaves", "weaves", "bivalves", "dissolves", "resolves", "salves", "twelves",
    "valves"]

/-- Nouns in `o` that only add an `s`. -/
def shortO : List String :=
  ["ado", "oto"]

/-- Endings of nouns in `o` that only add an `s`. -/
def shortOEndings : List String :=
  ["aficionado", "aggro", "albino", "allegro", "ammo", "archipelago", "armadillo", "auto",
    "avocado", "bimbo", "bingo", "bolero", "bongo", "burro", "canto", "cappuccino", "casino",
    "cello", "cilantro", "cochito", "coco", "commando", "concertino", "contango", "credo",
    "crescendo", "cyano", "demo", "ditto", "dynamo", "embryo", "espresso", "euro", "falsetto",
    "fiasco", "flamenco", "furioso", "generalissimo", "ghetto", "gigolo", "gizmo", "gringo",
    "guano", "gumbo", "gyro", "hairdo", "hippo", "impetigo", "inferno", "info", "intermezzo",
    "intertrigo", "jumbo", "junto", "kilo", "libero", "libido", "libretto", "lido", "limbo",
    "limo", "lineno", "lingo", "lino", "livedo", "loco", "logo", "lumbago", "macho", "macro",
    "mafioso", "magneto", "magnifico", "manifesto", "medico", "memo", "metro", "micro", "mono",
    "myo", "neutrino", "octavo", "oregano", "panto", "pedalo", "photo", "piano", "pinto",
    "pleco", "pogo", "polo", "poncho", "pro", "psycho", "pueblo", "quarto", "repo", "rhino",
    "risotto", "rococo", "rondo", "saddo", "sago", "salvo", "scherzando", "scherzo", "silo",
    "sirocco", "sombrero", "staccato", "sterno", "stucco", "stylo", "sumo", "techno",
    "terrazzo", "testudo", "timpano", "tiro", "tobacco", "torero", "torso", "tremolo", "typo",
    "tyro", "ufo", "vaquero", "vermicello", "verso", "vibrato", "violoncello", "weirdo",
    "yo-yo", "zero", "solo", "soprano", "basso", "alto", "contralto", "tempo", "virtuoso"]

/-- Plurals of nouns in `is`. -/
def pluralsOfIs : List String :=
  ["amanuenses", "amniocenteses", "analyses", "antitheses", "apotheoses", "arterioscleroses",
    "atheroscleroses", "axes", "catalyses", "catharses", "chasses", "cirrhoses", "cocces",
    "crises", "diagnoses", "dialyses", "diereses", "electrolyses", "emphases", "exegeses",
    "geneses", "halitoses", "hydrolyses", "hypnoses", "hypotheses", "hystereses",
    "metamorphoses", "metastases", "misdiagnoses", "mitoses", "mononucleoses", "narcoses",
    "necroses", "nemeses", "neuroses", "oases", "osmoses", "osteoporoses", "paralyses",
    "parentheses", "parthenogeneses", "periphrases", "photosyntheses", "probosces",
    "prognoses", "prophylaxes", "prostheses", "preces", "psoriases", "psychoanalyses",
    "psychokineses", "psychoses", "scleroses", "scolioses", "sepses", "silicoses", "symbioses",
    "synopses", "syntheses", "taxes", "telekineses", "theses", "thromboses", "tuberculoses",
    "urinalyses"]

/-- Words that join a noun to what follows it in a compound. -/
def prepositions : List String :=
  ["about", "above", "across", "after", "among", "around", "at", "athwart", "before", "behind",
    "below", "beneath", "beside", "besides", "between", "betwixt", "beyond", "but", "by",
    "during", "except", "for", "from", "in", "into", "near", "of", "off", "on", "onto", "out",
    "over", "since", "till", "to", "under", "until", "unto", "upon", "with", "de", "du", "da"]

end Tablewright.Naming.Lexicon
